import Mathlib.Data.List.Forall2
import DocChain.Fields

/-!
# Entries and their places

Writing to a name changes the value in its place or adds an entry at the end (`agreeBut_insert`, `insert_of_new`).
Taking one out moves an entry but loses no other (`swapRemove_perm`), and where every name stands once, the order
does not matter to a reader (`get?_of_perm`). Names that stand in front are replaced by the last entries when they are
taken out one after the other (`takeOut_of_ordered`).
-/

namespace DocChain.Fields

variable {α : Type} {d d' front rest : Fields α} {key : String} {value : α} {names : List String}

/-! ### Reading -/

theorem mem_of_get? (found : d.get? key = some value) : (key, value) ∈ d := by
  induction d with
  | nil => cases found
  | cons first rest ih =>
    obtain ⟨name, old⟩ := first
    by_cases same : name = key
    · subst same
      simp only [get?, if_true, Option.some.injEq] at found
      subst found
      exact List.mem_cons_self
    · simp only [get?, same, if_false] at found
      exact List.mem_cons_of_mem _ (ih found)

theorem mem_keys_of_get? (found : d.get? key = some value) : key ∈ d.keys :=
  List.mem_map.mpr ⟨_, mem_of_get? found, rfl⟩

theorem contains_iff : d.contains key = true ↔ key ∈ d.keys := by
  have missing := get?_eq_none_iff d key
  unfold contains
  cases found : d.get? key with
  | none => simpa using missing.mp found
  | some value => simpa using mem_keys_of_get? found

theorem get?_eq_some_iff (distinct : d.keys.Nodup) : d.get? key = some value ↔ (key, value) ∈ d := by
  constructor
  · exact mem_of_get?
  · intro member
    induction d with
    | nil => cases member
    | cons first rest ih =>
      obtain ⟨name, old⟩ := first
      obtain ⟨fresh, distinct⟩ := List.nodup_cons.mp distinct
      rcases List.mem_cons.mp member with same | later
      · cases same
        simp [get?]
      · have other : name ≠ key := by
          rintro rfl
          exact fresh (List.mem_map.mpr ⟨_, later, rfl⟩)
        rw [get?, if_neg other]
        exact ih distinct later

theorem keys_perm (perm : d.Perm d') : d.keys.Perm d'.keys :=
  perm.map _

theorem get?_of_perm (perm : d.Perm d') (distinct : d.keys.Nodup) (key : String) : d.get? key = d'.get? key := by
  apply Option.ext
  intro value
  rw [get?_eq_some_iff distinct, get?_eq_some_iff ((keys_perm perm).nodup distinct), perm.mem_iff]

/-! ### Writing -/

theorem nodup_keys_insert (distinct : d.keys.Nodup) : (d.insert key value).keys.Nodup := by
  rw [keys_insert]
  split
  · exact distinct
  · rename_i new
    rw [List.nodup_append]
    refine ⟨distinct, by simp, ?_⟩
    rintro old member other last rfl
    obtain rfl := List.mem_singleton.mp last
    exact new member

theorem mem_of_mem_insert {entry : String × α} (member : entry ∈ d.insert key value) :
    entry = (key, value) ∨ entry ∈ d := by
  induction d with
  | nil => exact .inl (List.mem_singleton.mp member)
  | cons first rest ih =>
    obtain ⟨name, old⟩ := first
    by_cases same : name = key
    · subst same
      simp only [insert, if_true, List.mem_cons] at member
      rcases member with written | later
      · exact .inl written
      · exact .inr (List.mem_cons_of_mem _ later)
    · simp only [insert, same, if_false, List.mem_cons] at member
      rcases member with rfl | later
      · exact .inr List.mem_cons_self
      · rcases ih later with written | earlier
        · exact .inl written
        · exact .inr (List.mem_cons_of_mem _ earlier)

theorem insert_ne_nil (d : Fields α) (key : String) (value : α) : d.insert key value ≠ [] := by
  intro empty
  have found := get?_insert_self d key value
  rw [empty] at found
  cases found

theorem insert_of_new (new : key ∉ d.keys) (value : α) : d.insert key value = d ++ [(key, value)] := by
  induction d with
  | nil => rfl
  | cons entry rest ih =>
    obtain ⟨name, old⟩ := entry
    simp only [keys, List.map_cons, List.mem_cons, not_or] at new
    rw [insert, if_neg (Ne.symm new.1), ih new.2, List.cons_append]

theorem insert_insert (d : Fields α) (key : String) (old new : α) :
    (d.insert key old).insert key new = d.insert key new := by
  induction d with
  | nil => simp [insert]
  | cons entry rest ih =>
    obtain ⟨name, first⟩ := entry
    by_cases here : name = key
    · simp [insert, here]
    · simp [insert, here, ih]

theorem insert_of_get? (found : d.get? key = some value) : d.insert key value = d := by
  induction d with
  | nil => cases found
  | cons entry rest ih =>
    obtain ⟨name, old⟩ := entry
    by_cases here : name = key
    · simp only [get?, here, if_true, Option.some.injEq] at found
      rw [insert, if_pos here, found]
    · rw [get?, if_neg here] at found
      rw [insert, if_neg here, ih found]

theorem insertAll_of_disjoint {more : Fields α} (distinct : more.keys.Nodup)
    (disjoint : ∀ key ∈ more.keys, key ∉ d.keys) : d.insertAll more = d ++ more := by
  induction more generalizing d with
  | nil => simp [insertAll]
  | cons entry rest ih =>
    obtain ⟨name, value⟩ := entry
    simp only [keys, List.map_cons, List.nodup_cons, List.forall_mem_cons] at distinct disjoint
    have first : d.insertAll ((name, value) :: rest) = (d ++ [(name, value)]).insertAll rest := by
      rw [← insert_of_new disjoint.1]
      rfl
    rw [first, ih distinct.2, List.append_assoc, List.singleton_append]
    intro key member
    have apart : key ≠ name := fun same => distinct.1 (same ▸ member)
    simpa [keys, apart] using disjoint.2 key member

/-- The same entries in the same places, except for what one name holds. -/
def AgreeBut (key : String) (d d' : Fields α) : Prop :=
  List.Forall₂ (fun old new => new.1 = old.1 ∧ (old.1 ≠ key → new = old)) d d'

theorem AgreeBut.refl (key : String) (d : Fields α) : AgreeBut key d d :=
  List.forall₂_same.mpr fun _ _ => ⟨rfl, fun _ => rfl⟩

theorem agreeBut_insert (known : key ∈ d.keys) (value : α) : AgreeBut key d (d.insert key value) := by
  induction d with
  | nil => cases known
  | cons entry rest ih =>
    obtain ⟨name, old⟩ := entry
    by_cases here : name = key
    · rw [insert, if_pos here]
      exact .cons ⟨rfl, fun other => absurd here other⟩ (AgreeBut.refl key rest)
    · have behind : key ∈ Fields.keys rest := by
        simp only [keys, List.map_cons, List.mem_cons] at known
        exact known.resolve_left (Ne.symm here)
      rw [insert, if_neg here]
      exact .cons ⟨rfl, fun _ => rfl⟩ (ih behind)

/-! ### Taking out -/

theorem swapRemove_perm (found : d.get? key = some value) : ((key, value) :: d.swapRemove key).Perm d := by
  induction d with
  | nil => cases found
  | cons entry rest ih =>
    obtain ⟨name, old⟩ := entry
    by_cases here : name = key
    · subst here
      simp only [get?, if_true, Option.some.injEq] at found
      subst found
      rw [swapRemove, if_pos rfl]
      rcases List.eq_nil_or_concat rest with rfl | ⟨front, last, rfl⟩
      · exact List.Perm.refl _
      · simp only [List.concat_eq_append, List.getLast?_append, List.getLast?_singleton, Option.some_or,
          List.dropLast_concat]
        exact (List.perm_append_singleton last front).symm.cons _
    · rw [get?, if_neg here] at found
      rw [swapRemove, if_neg here]
      exact (List.Perm.swap _ _ _).trans ((ih found).cons _)

theorem swapRemove_of_missing (missing : key ∉ d.keys) : d.swapRemove key = d := by
  induction d with
  | nil => rfl
  | cons entry rest ih =>
    obtain ⟨name, old⟩ := entry
    simp only [keys, List.map_cons, List.mem_cons, not_or] at missing
    rw [swapRemove, if_neg (Ne.symm missing.1), ih missing.2]

/-- The last entry takes the place of the first. -/
theorem swapRemove_first (between : Fields α) (last : String × α) :
    swapRemove ((key, value) :: (between ++ [last])) key = last :: between := by
  rw [swapRemove, if_pos rfl, List.getLast?_append, List.getLast?_singleton, Option.some_or, List.dropLast_concat]

theorem swapRemove_behind (missing : key ∉ front.keys) (d : Fields α) :
    (front ++ d).swapRemove key = front ++ d.swapRemove key := by
  induction front with
  | nil => rfl
  | cons entry front ih =>
    obtain ⟨name, old⟩ := entry
    simp only [keys, List.map_cons, List.mem_cons, not_or] at missing
    rw [List.cons_append, swapRemove, if_neg (Ne.symm missing.1), ih missing.2, List.cons_append]

/-- The entries of other names, in their order. -/
def without (d : Fields α) (names : List String) : Fields α :=
  d.filter fun entry => entry.1 ∉ names

theorem without_of_apart (apart : ∀ name ∈ names, name ∉ d.keys) : d.without names = d := by
  apply List.filter_eq_self.mpr
  intro entry member
  apply decide_eq_true
  intro inside
  exact apart entry.1 inside (List.mem_map_of_mem member)

theorem without_eq_nil (all : ∀ name ∈ d.keys, name ∈ names) : d.without names = [] := by
  apply List.filter_eq_nil_iff.mpr
  intro entry member
  simpa using all entry.1 (List.mem_map_of_mem member)

theorem without_cons (d : Fields α) (name : String) (names : List String) :
    d.without (name :: names) = (d.without [name]).without names := by
  simp [without, List.filter_filter, Bool.and_comm]

theorem without_append (front behind : Fields α) (names : List String) :
    without (front ++ behind) names = front.without names ++ behind.without names :=
  List.filter_append front behind

theorem nodup_keys_without (distinct : d.keys.Nodup) (names : List String) : (d.without names).keys.Nodup :=
  distinct.sublist (List.filter_sublist.map _)

theorem without_insert (inside : key ∈ names) (d : Fields α) (value : α) :
    (d.insert key value).without names = d.without names := by
  induction d with
  | nil => simp [without, insert, inside]
  | cons entry rest ih =>
    obtain ⟨name, old⟩ := entry
    rw [insert]
    split
    · rename_i here
      simp [without, here, inside]
    · rw [without, List.filter_cons, ← without, ih, without, without, List.filter_cons]

theorem swapRemove_perm_without (distinct : d.keys.Nodup) (key : String) :
    (d.swapRemove key).Perm (d.without [key]) := by
  cases found : d.get? key with
  | none =>
    have missing := (get?_eq_none_iff d key).mp found
    rw [swapRemove_of_missing missing, without_of_apart (by simpa using missing)]
  | some value =>
    have perm : ((key, value) :: d.swapRemove key).Perm d := swapRemove_perm found
    have gone : key ∉ (d.swapRemove key).keys := (List.nodup_cons.mp ((keys_perm perm).symm.nodup distinct)).1
    have kept : without ((key, value) :: d.swapRemove key) [key] = d.swapRemove key := by
      rw [without, List.filter_cons_of_neg (by simp), ← without, without_of_apart (by simpa using gone)]
    rw [← kept]
    exact perm.filter _

/-- Names taken out one after the other. -/
def takeOut (d : Fields α) (names : List String) : Fields α :=
  names.foldl swapRemove d

/-- Nothing but the entries of the names goes. -/
theorem takeOut_perm (distinct : d.keys.Nodup) (names : List String) : (d.takeOut names).Perm (d.without names) := by
  induction names generalizing d with
  | nil => rw [without_of_apart (by simp)]; rfl
  | cons name names ih =>
    have first := swapRemove_perm_without distinct name
    have spare : (d.swapRemove name).keys.Nodup := (keys_perm first).symm.nodup (nodup_keys_without distinct [name])
    rw [without_cons]
    exact (ih spare).trans (first.filter _)

/-- A single other entry has no order to lose. -/
theorem takeOut_of_few (distinct : d.keys.Nodup) (few : (d.without names).length ≤ 1) :
    d.takeOut names = d.without names := by
  have perm := takeOut_perm distinct names
  generalize d.without names = others at perm few
  cases others with
  | nil => exact perm.eq_nil
  | cons entry more =>
    rw [List.length_cons] at few
    obtain rfl : more = [] := List.length_eq_zero_iff.mp (by omega)
    exact List.perm_singleton.mp perm

theorem takeOut_behind (apart : ∀ name ∈ names, name ∉ front.keys) (d : Fields α) :
    (front ++ d).takeOut names = front ++ d.takeOut names := by
  induction names generalizing d with
  | nil => rfl
  | cons name names ih =>
    obtain ⟨missing, apart⟩ := List.forall_mem_cons.mp apart
    calc (front ++ d).takeOut (name :: names)
      _ = (front ++ d.swapRemove name).takeOut names := by
        rw [takeOut, List.foldl_cons, swapRemove_behind missing, takeOut]
      _ = front ++ (d.swapRemove name).takeOut names := ih apart _

theorem takeOut_first {last : String × α} (away : last.1 ∉ names) (between : Fields α) :
    takeOut ((key, value) :: (between ++ [last])) (key :: names) = last :: between.takeOut names := by
  have behind : ∀ name ∈ names, name ∉ keys [last] := by
    rintro name member inside
    obtain rfl := List.mem_singleton.mp inside
    exact away member
  rw [takeOut, List.foldl_cons, swapRemove_first]
  exact takeOut_behind behind between

/-- The last `k` entries, the very last first, in front of the others. -/
def turned (k : Nat) (d : Fields α) : Fields α :=
  d.reverse.take k ++ d.take (d.length - k)

theorem turned_concat (k : Nat) (d : Fields α) (last : String × α) :
    turned (k + 1) (d ++ [last]) = last :: turned k d := by
  simp [turned, List.take_append_of_le_length]

theorem turned_eq_self_iff (distinct : d.keys.Nodup) (k : Nat) : turned k d = d ↔ k = 0 ∨ d.length ≤ 1 := by
  cases k with
  | zero => simp [turned]
  | succ k =>
    rcases List.eq_nil_or_concat d with rfl | ⟨front, last, rfl⟩
    · simp [turned]
    · rw [List.concat_eq_append, turned_concat]
      cases front with
      | nil => simp [turned]
      | cons first between =>
        -- The last entry stands first now, and no name stands twice.
        constructor
        · intro same
          have swapped : last = first := (List.cons.inj same).1
          simp [keys, swapped] at distinct
        · simp

/-- Of names that stand in front, in their order, each one that is taken out leaves its place to the last entry. -/
theorem takeOut_of_ordered (once : names.Nodup) (ordered : front.keys.Sublist names)
    (apart : ∀ name ∈ rest.keys, name ∉ names) : (front ++ rest).takeOut names = turned front.length rest := by
  induction names generalizing front rest with
  | nil =>
    obtain rfl : front = [] := List.map_eq_nil_iff.mp (List.sublist_nil.mp ordered)
    simp [takeOut, turned]
  | cons name names ih =>
    obtain ⟨fresh, later⟩ := List.nodup_cons.mp once
    rcases List.sublist_cons_iff.mp ordered with spared | ⟨behind, first, spared⟩
    · have absent : name ∉ keys (front ++ rest) := by
        rw [keys, List.map_append, List.mem_append, not_or]
        exact ⟨fun member => fresh (spared.mem member), fun member => apart name member List.mem_cons_self⟩
      rw [takeOut, List.foldl_cons, swapRemove_of_missing absent]
      exact ih later spared fun other member inside => apart other member (List.mem_cons_of_mem _ inside)
    · rcases List.eq_nil_or_concat rest with rfl | ⟨rest, last, rfl⟩
      · have none : front.without (name :: names) = [] := without_eq_nil fun other member => ordered.mem member
        rw [List.append_nil, takeOut_of_few (ordered.nodup once) (by simp [none]), none]
        simp [turned]
      · obtain ⟨⟨same, value⟩, front, rfl, here, rfl⟩ := List.map_eq_cons_iff.mp first
        obtain rfl : same = name := here
        simp only [keys, List.concat_eq_append, List.map_append, List.mem_append, or_imp, forall_and] at apart
        have away : last.1 ∉ names := fun inside =>
          apart.2 last.1 (List.mem_singleton_self _) (List.mem_cons_of_mem _ inside)
        have kept : takeOut (front ++ rest) names = turned front.length rest :=
          ih later spared fun other member inside => apart.1 other member (List.mem_cons_of_mem _ inside)
        rw [List.concat_eq_append, List.length_cons, turned_concat, ← kept, List.cons_append, ← List.append_assoc]
        exact takeOut_first away _

end DocChain.Fields
