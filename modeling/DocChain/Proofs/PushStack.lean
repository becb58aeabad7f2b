import DocChain.Proofs.Pushes
import Mathlib.Data.List.Induction

/-!
# List fragments and the modifiers written on them

A modifier is recognized by the calls below it and applied by the field of the update. The two always
meet: as long as no `push_each` is refused, the fragment of a field is what the stack of modifiers on
its last `push_each` says.
-/

namespace DocChain

/-! ### What a stack of modifiers says -/

/-- The last direction of a key. -/
def lastDirection (keys : List (String × Direction)) (key : String) : Direction :=
  keys.foldl (fun last entry => if entry.1 = key then entry.2 else last) .ascending

/-- A repeated key keeps its first position and takes its last direction. -/
def sortDocument (keys : List (String × Direction)) : Document :=
  (keys.map (·.1)).eraseDups.map fun key => (key, .int (lastDirection keys key).sign)

namespace Modifier

def sorts : Modifier → Bool
  | sortBy _ => true
  | _ => false

/-- The count of a slice, if it is an integer from zero on. -/
def count? : Modifier × Expr → Option Int64
  | (slice, arg) => (arg.value?.bind Wire.int64?).filter (0 ≤ ·.toInt)
  | _ => none

/-- The key of a later sort. -/
def thenKey? : Modifier × Expr → Option (String × Direction)
  | (thenSortBy direction, arg) => arg.sortKey.toOption.map (·, direction)
  | _ => none

/-- The key of the last sort, followed by those of the later sorts behind it. -/
def sortKeys? : List (Modifier × Expr) → Option (List (String × Direction))
  | [] => none
  | (sortBy direction, arg) :: rest =>
    (sortKeys? rest).or (arg.sortKey.toOption.map fun key => (key, direction) :: rest.filterMap thenKey?)
  | _ :: rest => sortKeys? rest

end Modifier

/-- A list fragment. -/
def listFragment (items : Wire) (slice : Option Int64) (sort : Option Document) : Document :=
  ("$each", items) :: (slice.toList.map fun n => ("$slice", .int n)) ++
    sort.toList.map fun keys => ("$sort", .object keys)

/-- The fragment that a stack of modifiers makes of some items. -/
def stackFragment (items : Wire) (mods : List (Modifier × Expr)) : Document :=
  listFragment items ((mods.filterMap Modifier.count?).getLast?.map (-·))
    ((Modifier.sortKeys? mods).map sortDocument)

/-! ### One more modifier -/

theorem lastDirection_snoc (keys : List (String × Direction)) (key : String) (direction : Direction)
    (other : String) :
    lastDirection (keys ++ [(key, direction)]) other =
      if key = other then direction else lastDirection keys other := by
  simp [lastDirection, List.foldl_append]

theorem eraseDups_snoc (names : List String) (name : String) :
    (names ++ [name]).eraseDups = if name ∈ names then names.eraseDups else names.eraseDups ++ [name] := by
  rw [List.eraseDups_append]
  by_cases known : name ∈ names <;> simp [List.removeAll, known, List.eraseDups_cons]

theorem nodup_eraseDups (names : List String) : names.eraseDups.Nodup := by
  induction names using List.reverseRecOn with
  | nil => simp
  | append_singleton names name ih =>
    rw [eraseDups_snoc]
    split
    · exact ih
    · rename_i new
      rw [List.nodup_append]
      refine ⟨ih, by simp, ?_⟩
      rintro old known _ (_ | ⟨_, ⟨⟩⟩) rfl
      exact new (List.mem_eraseDups.mp known)

/-- Inserting into a table of names: a name that is there changes its value, another one goes to the
end. -/
theorem Fields.insert_map {α : Type} {names : List String} (nodup : names.Nodup) (f : String → α) (key : String)
    (value : α) :
    Fields.insert (names.map fun name => (name, f name)) key value =
      (if key ∈ names then names else names ++ [key]).map fun name =>
        (name, if key = name then value else f name) := by
  induction names with
  | nil => simp [insert]
  | cons name rest ih =>
    obtain ⟨fresh, nodup⟩ := List.nodup_cons.mp nodup
    rw [List.map_cons, insert]
    by_cases here : name = key
    · subst here
      have unchanged : rest.map (fun other => (other, if name = other then value else f other)) =
          rest.map fun other => (other, f other) := by
        refine List.map_congr_left fun other member => ?_
        rw [if_neg]
        rintro rfl
        exact fresh member
      simp [unchanged]
    · rw [if_neg here, ih nodup]
      by_cases behind : key ∈ rest <;> simp [behind, Ne.symm here]

theorem sortDocument_single (key : String) (direction : Direction) :
    sortDocument [(key, direction)] = [(key, .int direction.sign)] := by
  simp [sortDocument, lastDirection, List.eraseDups_cons]

/-- Another sort key is inserted into the document of the keys before it. -/
theorem sortDocument_snoc (keys : List (String × Direction)) (key : String) (direction : Direction) :
    sortDocument (keys ++ [(key, direction)]) =
      Fields.insert (sortDocument keys) key (.int direction.sign) := by
  rw [sortDocument, sortDocument, Fields.insert_map (nodup_eraseDups _), List.map_append, List.map_singleton,
    eraseDups_snoc]
  simp only [List.mem_eraseDups, lastDirection_snoc]
  refine List.map_congr_left fun name _ => ?_
  split <;> rfl

namespace Modifier

theorem sortKeys?_sortBy (mods : List (Modifier × Expr)) {arg : Expr} {key : String} (direction : Direction)
    (named : arg.sortKey = .ok key) :
    sortKeys? (mods ++ [(sortBy direction, arg)]) = some [(key, direction)] := by
  induction mods with
  | nil => simp [sortKeys?, named, Except.toOption]
  | cons entry rest ih =>
    obtain ⟨m, before⟩ := entry
    cases m <;> simp [sortKeys?, ih]

theorem sortKeys?_thenSortBy (mods : List (Modifier × Expr)) {arg : Expr} {key : String} (direction : Direction)
    (named : arg.sortKey = .ok key) :
    sortKeys? (mods ++ [(thenSortBy direction, arg)]) = (sortKeys? mods).map (· ++ [(key, direction)]) := by
  induction mods with
  | nil => rfl
  | cons entry rest ih =>
    obtain ⟨m, before⟩ := entry
    cases m with
    | slice => simpa [sortKeys?] using ih
    | thenSortBy => simpa [sortKeys?] using ih
    | sortBy first =>
      rw [List.cons_append, sortKeys?, sortKeys?, ih]
      cases sortKeys? rest <;> cases before.sortKey <;>
        simp [List.filterMap_append, thenKey?, named, Except.toOption]

theorem sortKeys?_slice (mods : List (Modifier × Expr)) (arg : Expr) :
    sortKeys? (mods ++ [(slice, arg)]) = sortKeys? mods := by
  induction mods with
  | nil => rfl
  | cons entry rest ih =>
    obtain ⟨m, before⟩ := entry
    cases m <;> simp [sortKeys?, ih, List.filterMap_append, List.filterMap_cons, thenKey?]

theorem counts_snoc (mods : List (Modifier × Expr)) (entry : Modifier × Expr) :
    ((mods ++ [entry]).filterMap count?).getLast? = (count? entry).or (mods.filterMap count?).getLast? := by
  cases counted : count? entry <;> simp [List.filterMap_append, counted]

/-- A sort among modifiers with a patch gives the fragment its keys. -/
theorem sortKeys?_isSome_snoc {mods : List (Modifier × Expr)} {m : Modifier} {arg : Expr} {read : Option Patch}
    (patched : m.patch? arg = .ok read) (sorted : mods.any (·.1.sorts) = true → (sortKeys? mods).isSome)
    (sort : (mods ++ [(m, arg)]).any (·.1.sorts) = true) : (sortKeys? (mods ++ [(m, arg)])).isSome := by
  simp only [List.any_append, List.any_cons, List.any_nil, Bool.or_false, Bool.or_eq_true] at sort
  cases m with
  | slice =>
    rw [sortKeys?_slice]
    exact sorted (sort.resolve_right (by simp [sorts]))
  | sortBy direction =>
    obtain ⟨key, named, _⟩ := bind_eq_ok.mp patched
    simp [sortKeys?_sortBy mods direction named]
  | thenSortBy direction =>
    obtain ⟨key, named, _⟩ := bind_eq_ok.mp patched
    rw [sortKeys?_thenSortBy mods direction named, Option.isSome_map]
    exact sorted (sort.resolve_right (by simp [sorts]))

end Modifier

/-! ### Patches of a fragment -/

@[simp] theorem contains_each (items : Wire) (slice : Option Int64) (sort : Option Document) :
    Fields.contains (listFragment items slice sort) "$each" = true := by
  simp [listFragment, Fields.contains, Fields.get?]

theorem get?_sort (items : Wire) (slice : Option Int64) (sort : Option Document) :
    Fields.get? (listFragment items slice sort) "$sort" = sort.map .object := by
  cases slice <;> cases sort <;> rfl

theorem inWireOrder_slice (items : Wire) (slice : Option Int64) (sort : Option Document) (n : Int64) :
    Patch.inWireOrder (Fields.insert (listFragment items slice sort) "$slice" (.int n)) =
      listFragment items (some n) sort := by
  cases slice <;> cases sort <;> rfl

theorem inWireOrder_sort (items : Wire) (slice : Option Int64) (sort : Option Document) (keys : Document) :
    Patch.inWireOrder (Fields.insert (listFragment items slice sort) "$sort" (.object keys)) =
      listFragment items slice (some keys) := by
  cases slice <;> cases sort <;> rfl

/-- A patch edits the fragment of a stack to that of the stack with its modifier on top. -/
theorem edit_stackFragment (items : Wire) {mods : List (Modifier × Expr)} {m : Modifier} {arg : Expr}
    {patch : Patch} (read : m.patch? arg = .ok (some patch))
    (ordered : ∀ direction, m = .thenSortBy direction → (Modifier.sortKeys? mods).isSome) :
    ∃ edited, patch.edit (stackFragment items mods) = .ok edited ∧
      Patch.inWireOrder edited = stackFragment items (mods ++ [(m, arg)]) := by
  cases m with
  | slice =>
    simp only [Modifier.patch?] at read
    split at read
    · rename_i n counted
      split at read
      · rename_i fromZero
        cases read
        refine ⟨_, rfl, ?_⟩
        have count : Modifier.count? (.slice, arg) = some n := by
          simp [Modifier.count?, counted, Option.filter, fromZero]
        rw [stackFragment, stackFragment, inWireOrder_slice, Modifier.counts_snoc, count, Modifier.sortKeys?_slice]
        rfl
      · cases read
    · cases read
  | sortBy direction =>
    obtain ⟨key, named, same⟩ := bind_eq_ok.mp read
    cases same
    refine ⟨_, rfl, ?_⟩
    rw [stackFragment, stackFragment, Wire.single, inWireOrder_sort, Modifier.counts_snoc,
      Modifier.sortKeys?_sortBy mods direction named, Option.map_some, sortDocument_single]
    rfl
  | thenSortBy direction =>
    obtain ⟨key, named, same⟩ := bind_eq_ok.mp read
    cases same
    obtain ⟨keys, present⟩ := Option.isSome_iff_exists.mp (ordered direction rfl)
    refine ⟨Fields.insert (stackFragment items mods) "$sort"
      (.object (Fields.insert (sortDocument keys) key (.int direction.sign))), ?_, ?_⟩
    · simp only [Patch.edit, stackFragment, get?_sort, present, Option.map_some]
      rfl
    · rw [← sortDocument_snoc, stackFragment, stackFragment, inWireOrder_sort, Modifier.counts_snoc,
        Modifier.sortKeys?_thenSortBy mods direction named, present]
      rfl

/-- A modifier without a patch is a slice without a count, which says nothing. -/
theorem stackFragment_ignored (items : Wire) {mods : List (Modifier × Expr)} {m : Modifier} {arg : Expr}
    (read : m.patch? arg = .ok none) : stackFragment items (mods ++ [(m, arg)]) = stackFragment items mods := by
  cases m with
  | slice =>
    have uncounted : Modifier.count? (.slice, arg) = none := by
      simp only [Modifier.patch?] at read
      split at read
      · rename_i n counted
        split at read
        · cases read
        · rename_i negative
          simp [Modifier.count?, counted, Option.filter, negative]
      · rename_i counted
        simp [Modifier.count?, counted]
    rw [stackFragment, stackFragment, Modifier.counts_snoc, uncounted, Modifier.sortKeys?_slice]
    rfl
  | sortBy direction =>
    obtain ⟨key, _, same⟩ := bind_eq_ok.mp read
    cases same
  | thenSortBy direction =>
    obtain ⟨key, _, same⟩ := bind_eq_ok.mp read
    cases same

/-! ### Stacks in an update -/

/-- An update holds the fragment of a stack under a field. -/
structure Stacked (update : Document) (field : String) (items : Wire) (mods : List (Modifier × Expr)) : Prop where
  fragment : pushed? update field = some (.object (stackFragment items mods))
  sorted : mods.any (·.1.sorts) = true → (Modifier.sortKeys? mods).isSome

namespace Stacked

variable {update : Document} {path : FieldPath} {items : Wire} {mods : List (Modifier × Expr)} {m : Modifier}
  {arg : Expr}

/-- A modifier with a patch finds the fragment and goes on top of the stack. -/
theorem apply {patch : Patch} (stacked : Stacked update path.dotted items mods)
    (ordered : ∀ direction, m = .thenSortBy direction → mods.any (·.1.sorts) = true)
    (read : m.patch? arg = .ok (some patch)) :
    ∃ update', patch.apply path update = .ok (some update') ∧
      Stacked update' path.dotted items (mods ++ [(m, arg)]) := by
  obtain ⟨edited, edits, wired⟩ := edit_stackFragment items read
    fun direction same => stacked.sorted (ordered direction same)
  obtain ⟨update', applied, pushed⟩ := Patch.apply_eq_ok stacked.fragment (contains_each ..) edits
  rw [wired] at pushed
  exact ⟨update', applied, pushed, Modifier.sortKeys?_isSome_snoc read stacked.sorted⟩

theorem ignored (stacked : Stacked update path.dotted items mods) (read : m.patch? arg = .ok none) :
    Stacked update path.dotted items (mods ++ [(m, arg)]) where
  fragment := by rw [stackFragment_ignored items read, stacked.fragment]
  sorted := Modifier.sortKeys?_isSome_snoc read stacked.sorted

end Stacked

end DocChain
