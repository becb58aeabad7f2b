import DocChain.Proofs.FieldOrder
import DocChain.Proofs.Pushes

/-!
# What a patch changes

A patch sets one entry of the fragment of its field and puts the fragment into wire order (`Patched`). The other
entries of the fragment keep their values, and the rest of the update keeps values and places. A patch that does not
go through changes nothing.
-/

namespace DocChain.Patch

/-! ### Wire order -/

/-- The names that stand first in a fragment. -/
def wireKeys : List String :=
  ["$each", "$slice", "$sort"]

/-- The entries of some names, in the order of the names. -/
def selected (names : List String) (d : Document) : Document :=
  names.filterMap fun key => (d.get? key).map fun value => (key, value)

theorem selected_of_missing {d : Document} {name : String} (missing : d.get? name = none) (rest : List String) :
    selected (name :: rest) d = selected rest d :=
  List.filterMap_cons_none (by rw [missing]; rfl)

theorem selected_of_found {d : Document} {name : String} {value : Wire} (found : d.get? name = some value)
    (rest : List String) : selected (name :: rest) d = (name, value) :: selected rest d :=
  List.filterMap_cons_some (by rw [found]; rfl)

theorem selected_congr {names : List String} {d d' : Document} (same : ∀ name ∈ names, d.get? name = d'.get? name) :
    selected names d = selected names d' :=
  List.filterMap_congr fun name member => by rw [same name member]

theorem keys_selected (names : List String) (d : Document) :
    Fields.keys (selected names d) = names.filter (· ∈ d.keys) := by
  induction names with
  | nil => rfl
  | cons name rest ih =>
    cases found : d.get? name with
    | none =>
      have absent := (Fields.get?_eq_none_iff d name).mp found
      rw [selected_of_missing found, ih, List.filter_cons_of_neg (by simpa using absent)]
    | some value =>
      have present := Fields.mem_keys_of_get? found
      rw [selected_of_found found, List.filter_cons_of_pos (by simpa using present), ← ih]
      rfl

/-- Entries that are moved one by one end up in the order of their names, behind those that are there. -/
theorem moveEntries_eq {names : List String} {front rest : Document} (once : names.Nodup)
    (distinct : rest.keys.Nodup) (apart : ∀ name ∈ names, name ∉ front.keys) :
    names.foldl (fun docs key => moveEntry key docs) (front, rest) =
        (front ++ selected names rest, rest.takeOut names) ∧
      (selected names rest ++ rest.takeOut names).Perm rest := by
  induction names generalizing front rest with
  | nil => exact ⟨by simp [selected, Fields.takeOut], List.Perm.refl _⟩
  | cons name names ih =>
    obtain ⟨fresh, once⟩ := List.nodup_cons.mp once
    obtain ⟨new, apart⟩ := List.forall_mem_cons.mp apart
    rw [List.foldl_cons, moveEntry, Fields.takeOut, List.foldl_cons]
    cases found : rest.get? name with
    | none =>
      rw [selected_of_missing found, Fields.swapRemove_of_missing ((Fields.get?_eq_none_iff rest name).mp found)]
      exact ih once distinct apart
    | some value =>
      let taken := rest.swapRemove name
      have perm : ((name, value) :: taken).Perm rest := Fields.swapRemove_perm found
      have spare := List.nodup_cons.mp ((Fields.keys_perm perm).symm.nodup distinct)
      have behind : selected names taken = selected names rest := by
        refine selected_congr fun other member => ?_
        have differs : name ≠ other := fun same => fresh (same ▸ member)
        rw [Fields.get?_of_perm perm.symm distinct, Fields.get?, if_neg differs]
      have apart' : ∀ other ∈ names, other ∉ Fields.keys (front ++ [(name, value)]) := by
        intro other member
        have differs : other ≠ name := fun same => fresh (same ▸ member)
        simpa [Fields.keys, differs] using apart other member
      obtain ⟨moved, kept⟩ := ih once spare.2 apart'
      rw [behind] at moved kept
      rw [selected_of_found found]
      constructor
      · rw [← List.singleton_append, ← List.append_assoc, ← Fields.takeOut, ← moved]
        simp only [Fields.insert_of_new new, taken]
      · exact (kept.cons _).trans perm

/-- Wire order takes the three names out, puts their entries in front and loses none. -/
theorem inWireOrder_takesOut {fragment : Document} (distinct : fragment.keys.Nodup) :
    inWireOrder fragment = selected wireKeys fragment ++ fragment.takeOut wireKeys ∧
      (selected wireKeys fragment ++ fragment.takeOut wireKeys).Perm fragment := by
  have apart : ∀ name ∈ wireKeys, name ∉ Fields.keys ([] : Document) := by simp [Fields.keys]
  obtain ⟨moved, perm⟩ := moveEntries_eq (by decide) distinct apart
  have spare := (Fields.keys_perm perm).symm.nodup distinct
  rw [Fields.keys, List.map_append, List.nodup_append] at spare
  refine ⟨?_, perm⟩
  have unfolded : inWireOrder fragment = (selected wireKeys fragment).insertAll (fragment.takeOut wireKeys) := by
    have docs : inWireOrder fragment = (wireKeys.foldl (fun docs key => moveEntry key docs) ([], fragment)).1.insertAll
        (wireKeys.foldl (fun docs key => moveEntry key docs) ([], fragment)).2 := rfl
    rw [docs, moved]
    rfl
  rw [unfolded, Fields.insertAll_of_disjoint spare.2.1]
  intro key behind before
  exact spare.2.2 key before key behind rfl

/-- A fragment in wire order has the three names in front, and the same entries as before. -/
theorem inWireOrder_eq {fragment : Document} (distinct : fragment.keys.Nodup) :
    ∃ left, inWireOrder fragment = selected wireKeys fragment ++ left ∧
      (selected wireKeys fragment ++ left).Perm fragment :=
  ⟨_, inWireOrder_takesOut distinct⟩

theorem inWireOrder_perm {fragment : Document} (distinct : fragment.keys.Nodup) :
    (inWireOrder fragment).Perm fragment := by
  obtain ⟨ordered, perm⟩ := inWireOrder_takesOut distinct
  rwa [← ordered] at perm

theorem nodup_inWireOrder {fragment : Document} (distinct : fragment.keys.Nodup) :
    (Fields.keys (inWireOrder fragment)).Nodup :=
  (Fields.keys_perm (inWireOrder_perm distinct)).symm.nodup distinct

/-! ### The patched fragment -/

/-- The name that a patch sets. -/
def key : Patch → String
  | slice _ => "$slice"
  | sortBy .. | thenSortBy .. => "$sort"

/-- What a patch asks for in place of a value. Another key of a sort goes behind the earlier ones; one that is among
them keeps its place. -/
inductive Asks : Patch → Option Wire → Wire → Prop where
  | slice (n : Int64) (old : Option Wire) : Asks (.slice n) old (.int n)
  | sortBy (key : String) (direction : Direction) (old : Option Wire) :
    Asks (.sortBy key direction) old (.object [(key, .int direction.sign)])
  | known {key : String} {direction : Direction} {sort sort' : Document} (agree : Fields.AgreeBut key sort sort')
    (set : sort'.get? key = some (.int direction.sign)) :
    Asks (.thenSortBy key direction) (some (.object sort)) (.object sort')
  | new {key : String} {direction : Direction} {sort : Document} (new : key ∉ sort.keys) :
    Asks (.thenSortBy key direction) (some (.object sort)) (.object (sort ++ [(key, .int direction.sign)]))

/-- A fragment before and after a patch. -/
structure Patched (patch : Patch) (fragment patched : Document) : Prop where
  names : ∀ name, name ∈ patched.keys ↔ name ∈ fragment.keys ∨ name = patch.key
  distinct : patched.keys.Nodup
  others : ∀ name, name ≠ patch.key → patched.get? name = fragment.get? name
  order : ∃ behind, patched.keys = wireKeys.filter (· ∈ patched.keys) ++ behind
  value : ∃ value, patched.get? patch.key = some value ∧ patch.Asks (fragment.get? patch.key) value

/-- A patch writes the value that it asks for. -/
theorem edit_eq_ok {patch : Patch} {fragment edited : Document} (edits : patch.edit fragment = .ok edited) :
    ∃ value, edited = fragment.insert patch.key value ∧ patch.Asks (fragment.get? patch.key) value := by
  cases patch with
  | slice n =>
    cases edits
    exact ⟨_, rfl, .slice n _⟩
  | sortBy key direction =>
    cases edits
    exact ⟨_, rfl, .sortBy key direction _⟩
  | thenSortBy name direction =>
    simp only [edit] at edits
    split at edits
    · rename_i sort found
      cases edits
      refine ⟨_, rfl, ?_⟩
      rw [key, found]
      by_cases known : name ∈ Fields.keys sort
      · exact .known (Fields.agreeBut_insert known _) (Fields.get?_insert_self _ _ _)
      · rw [Fields.insert_of_new known]
        exact .new known
    · cases edits

theorem patched_of_edit {patch : Patch} {fragment edited : Document} (distinct : fragment.keys.Nodup)
    (edits : patch.edit fragment = .ok edited) : patch.Patched fragment (inWireOrder edited) := by
  obtain ⟨value, rfl, asks⟩ := edit_eq_ok edits
  have once : (fragment.insert patch.key value).keys.Nodup := Fields.nodup_keys_insert distinct
  obtain ⟨left, ordered, _⟩ := inWireOrder_eq once
  have perm := inWireOrder_perm once
  have names (name : String) : name ∈ Fields.keys (inWireOrder (fragment.insert patch.key value)) ↔
      name ∈ fragment.keys ∨ name = patch.key := by
    rw [(Fields.keys_perm perm).mem_iff, Fields.keys_insert]
    split
    · rename_i known
      refine ⟨.inl, ?_⟩
      rintro (member | rfl)
      · exact member
      · exact known
    · simp
  have read (name : String) : Fields.get? (inWireOrder (fragment.insert patch.key value)) name =
      (fragment.insert patch.key value).get? name :=
    (Fields.get?_of_perm perm.symm once name).symm
  refine ⟨names, nodup_inWireOrder once, ?_, ?_, ?_⟩
  · intro name other
    rw [read, Fields.get?_insert_of_ne _ _ (Ne.symm other)]
  · refine ⟨Fields.keys left, ?_⟩
    have kept : wireKeys.filter (· ∈ Fields.keys (inWireOrder (fragment.insert patch.key value))) =
        wireKeys.filter (· ∈ (fragment.insert patch.key value).keys) := by
      simp only [(Fields.keys_perm perm).mem_iff]
    rw [kept, ← keys_selected, ordered]
    simp [Fields.keys]
  · exact ⟨value, by rw [read, Fields.get?_insert_self], asks⟩

/-- What is there already is not changed by asking for it again. -/
theorem edit_of_patched {patch : Patch} {fragment patched : Document} (done : patch.Patched fragment patched) :
    patch.edit patched = .ok patched := by
  obtain ⟨value, found, asks⟩ := done.value
  have kept : patched.insert patch.key value = patched := Fields.insert_of_get? found
  generalize fragment.get? patch.key = old at asks
  cases asks with
  | slice | sortBy => exact congrArg Except.ok kept
  | @known name direction sort sort' agree set =>
    rw [key] at found
    simp only [edit, found, Fields.insert_of_get? set]
    exact congrArg Except.ok kept
  | @new name direction sort new =>
    rw [key] at found
    have set := Fields.get?_insert_self sort name (.int direction.sign)
    rw [Fields.insert_of_new new] at set
    simp only [edit, found, Fields.insert_of_get? set]
    exact congrArg Except.ok kept

/-! ### The update -/

section
variable {patch : Patch} {path : FieldPath} {update : Document}

theorem apply_of_other {operand : Wire} (found : pushed? update path.dotted = some operand)
    (other : ∀ fragment, operand = .object fragment → "$each" ∉ Fields.keys fragment) :
    patch.apply path update = .error (.notFragment path.dotted) := by
  obtain ⟨pushes, written, member⟩ := pushed?_eq_some.mp found
  simp only [apply, written, applyToPushes, member]
  cases operand with
  | object fragment =>
    have missing := mt Fields.contains_iff.mp (other fragment rfl)
    simp only [if_neg missing]
    rfl
  | _ => rfl

end

end DocChain.Patch
