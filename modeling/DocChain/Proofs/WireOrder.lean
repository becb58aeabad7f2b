import DocChain.Proofs.DocumentText
import DocChain.Proofs.PatchedFragments

/-!
# The entries behind the wire keys

Wire order puts the entries of the wire keys in front. The other entries follow, but a key that is taken out leaves its
place to the last entry, so they keep their order only where at most one of them stands behind a wire key. Each further
pass turns them again (`inWireOrder_twice`), and the text of an update shows it (`apply_again_text`).
-/

namespace DocChain.Patch

theorem selected_eq_nil_iff {names : List String} {d : Document} :
    selected names d = [] ↔ ∀ name ∈ names, name ∉ d.keys := by
  simp only [selected, List.filterMap_eq_nil_iff, Option.map_eq_none_iff, Fields.get?_eq_none_iff]

/-! ### One pass -/

section
variable {fragment front behind : Document}

/-- What stands in front of the wire keys stays in front of the other entries. -/
theorem inWireOrder_append (distinct : (Fields.keys (front ++ behind)).Nodup)
    (apart : ∀ name ∈ wireKeys, name ∉ front.keys) :
    inWireOrder (front ++ behind) = selected wireKeys (front ++ behind) ++ (front ++ behind.takeOut wireKeys) := by
  rw [(inWireOrder_takesOut distinct).1, Fields.takeOut_behind apart]

theorem inWireOrder_of_few (distinct : (Fields.keys (front ++ behind)).Nodup)
    (apart : ∀ name ∈ wireKeys, name ∉ front.keys) (few : (behind.without wireKeys).length ≤ 1) :
    inWireOrder (front ++ behind) =
      selected wireKeys (front ++ behind) ++ Fields.without (front ++ behind) wireKeys := by
  have spare : behind.keys.Nodup := distinct.sublist ((List.sublist_append_right front behind).map _)
  rw [inWireOrder_append distinct apart, Fields.takeOut_of_few spare few, Fields.without_append,
    Fields.without_of_apart apart]

/-! ### Further passes -/

theorem apart_of_ordered (distinct : fragment.keys.Nodup) (ordered : fragment = selected wireKeys fragment ++ behind) :
    ∀ name ∈ behind.keys, name ∉ wireKeys := by
  have split : fragment.keys = Fields.keys (selected wireKeys fragment) ++ behind.keys :=
    (congrArg Fields.keys ordered).trans List.map_append
  intro name later wire
  have first : name ∈ Fields.keys (selected wireKeys fragment) := by
    rw [keys_selected, List.mem_filter]
    exact ⟨wire, decide_eq_true (split ▸ List.mem_append_right _ later)⟩
  rw [split, List.nodup_append] at distinct
  exact distinct.2.2 name first name later rfl

/-- A fragment that is in wire order already has its last entries turned to the front of the others, one for each wire
key. -/
theorem inWireOrder_of_ordered (distinct : fragment.keys.Nodup)
    (ordered : fragment = selected wireKeys fragment ++ behind) :
    inWireOrder fragment =
      selected wireKeys fragment ++ Fields.turned (selected wireKeys fragment).length behind := by
  have inOrder : (Fields.keys (selected wireKeys fragment)).Sublist wireKeys := by
    rw [keys_selected]
    exact List.filter_sublist
  have taken : fragment.takeOut wireKeys = Fields.turned (selected wireKeys fragment).length behind := by
    conv_lhs => rw [ordered]
    exact Fields.takeOut_of_ordered (by decide) inOrder (apart_of_ordered distinct ordered)
  rw [(inWireOrder_takesOut distinct).1, taken]

theorem inWireOrder_twice (distinct : fragment.keys.Nodup) :
    inWireOrder (inWireOrder fragment) = selected wireKeys fragment ++
      Fields.turned (selected wireKeys fragment).length (fragment.takeOut wireKeys) := by
  have once := nodup_inWireOrder distinct
  have same : selected wireKeys (inWireOrder fragment) = selected wireKeys fragment :=
    selected_congr fun name _ => Fields.get?_of_perm (inWireOrder_perm distinct) once name
  have ordered : inWireOrder fragment = selected wireKeys (inWireOrder fragment) ++ fragment.takeOut wireKeys := by
    rw [same]
    exact (inWireOrder_takesOut distinct).1
  rw [inWireOrder_of_ordered once ordered, same]

theorem inWireOrder_idempotent_iff (distinct : fragment.keys.Nodup) :
    inWireOrder (inWireOrder fragment) = inWireOrder fragment ↔
      (∀ name ∈ wireKeys, name ∉ fragment.keys) ∨ (fragment.without wireKeys).length ≤ 1 := by
  have left := Fields.takeOut_perm distinct wireKeys
  have spare : (fragment.takeOut wireKeys).keys.Nodup :=
    (Fields.keys_perm left).symm.nodup (Fields.nodup_keys_without distinct wireKeys)
  rw [inWireOrder_twice distinct, (inWireOrder_takesOut distinct).1, List.append_cancel_left_eq,
    Fields.turned_eq_self_iff spare, List.length_eq_zero_iff, selected_eq_nil_iff, left.length_eq]

end

/-! ### Patches -/

section
variable {patch : Patch} {path : FieldPath} {update once fragment : Document}

theorem key_mem_wireKeys (patch : Patch) : patch.key ∈ wireKeys := by
  cases patch <;> simp [key, wireKeys]

theorem list_of_apply (found : pushed? update path.dotted = some (.object fragment))
    (applied : patch.apply path update = .ok (some once)) : "$each" ∈ fragment.keys := by
  by_contra missing
  have refused : patch.apply path update = .error (.notFragment path.dotted) := by
    apply apply_of_other found
    intro other same
    cases same
    exact missing
  rw [refused] at applied
  cases applied

/-- A patch that is applied again has nothing to edit, but it puts the fragment into wire order once more. -/
theorem apply_again (found : pushed? update path.dotted = some (.object fragment)) (distinct : fragment.keys.Nodup)
    (applied : patch.apply path update = .ok (some once)) :
    ∃ (pushes : Document) (value : Wire), let edited := fragment.insert patch.key value
      once = update.insert "$push" (.object (pushes.insert path.dotted (.object (inWireOrder edited)))) ∧
      patch.apply path once = .ok (some (update.insert "$push"
        (.object (pushes.insert path.dotted (.object (inWireOrder (inWireOrder edited))))))) := by
  obtain ⟨pushes, _, edited, written, member, edits, rfl⟩ := of_apply applied
  cases found.symm.trans (pushed?_eq_some.mpr ⟨pushes, written, member⟩)
  have done : patch.Patched fragment (inWireOrder edited) := patched_of_edit distinct edits
  have again : patch.edit (inWireOrder edited) = .ok (inWireOrder edited) := edit_of_patched done
  have list : Fields.contains (inWireOrder edited) "$each" = true :=
    Fields.contains_iff.mpr ((done.names _).mpr (.inl (list_of_apply found applied)))
  obtain ⟨value, rfl, _⟩ := edit_eq_ok edits
  refine ⟨pushes, value, rfl, ?_⟩
  simp only [apply, Fields.get?_insert_self, applyToPushes, list, if_true, again, Fields.insert_insert]
  rfl

theorem apply_again_text (found : pushed? update path.dotted = some (.object fragment))
    (distinct : fragment.keys.Nodup) (applied : patch.apply path update = .ok (some once)) :
    ∃ twice, patch.apply path once = .ok (some twice) ∧
      ((Wire.object twice).text = (Wire.object once).text ↔ (fragment.without wireKeys).length ≤ 1) := by
  obtain ⟨pushes, value, same, again⟩ := apply_again found distinct applied
  have edited : (fragment.insert patch.key value).keys.Nodup := Fields.nodup_keys_insert distinct
  have ordered := nodup_inWireOrder edited
  have wired : ¬∀ name ∈ wireKeys, name ∉ (fragment.insert patch.key value).keys := by
    intro none
    exact none patch.key (key_mem_wireKeys patch) (Fields.mem_keys_of_get? (Fields.get?_insert_self _ _ _))
  refine ⟨_, again, ?_⟩
  rw [same, Wire.text_insert_eq_iff, Wire.text_insert_eq_iff,
    Wire.text_eq_iff_of_perm (inWireOrder_perm ordered) (nodup_inWireOrder ordered),
    inWireOrder_idempotent_iff edited, or_iff_right wired, Fields.without_insert (key_mem_wireKeys patch)]

end

/-- Wire order keeps all entries, what stands in front of the wire keys in its place, and the order of the other entries
where at most one of them stands behind a wire key. A second pass changes nothing exactly where there is at most one
other entry or no wire key, and the same patch again exactly where there is at most one other entry. -/
theorem inWireOrder_turns_others (fragment : Document) (distinct : fragment.keys.Nodup) :
    (inWireOrder fragment).Perm fragment ∧
    (∀ front behind, fragment = front ++ behind → (∀ name ∈ wireKeys, name ∉ Fields.keys front) →
      inWireOrder fragment = selected wireKeys fragment ++ (front ++ Fields.takeOut behind wireKeys) ∧
      (Fields.takeOut behind wireKeys).Perm (Fields.without behind wireKeys) ∧
      ((Fields.without behind wireKeys).length ≤ 1 →
        inWireOrder fragment = selected wireKeys fragment ++ fragment.without wireKeys)) ∧
    (∀ behind, fragment = selected wireKeys fragment ++ behind → inWireOrder fragment =
      selected wireKeys fragment ++ Fields.turned (selected wireKeys fragment).length behind) ∧
    (inWireOrder (inWireOrder fragment) = inWireOrder fragment ↔
      (∀ name ∈ wireKeys, name ∉ fragment.keys) ∨ (fragment.without wireKeys).length ≤ 1) ∧
    (∀ (patch : Patch) (path : FieldPath) (update once : Document),
      pushed? update path.dotted = some (.object fragment) → patch.apply path update = .ok (some once) →
      ∃ twice, patch.apply path once = .ok (some twice) ∧
        ((Wire.object twice).text = (Wire.object once).text ↔ (fragment.without wireKeys).length ≤ 1)) := by
  refine ⟨inWireOrder_perm distinct, ?_, fun behind => inWireOrder_of_ordered distinct,
    inWireOrder_idempotent_iff distinct, fun patch path update once found => apply_again_text found distinct⟩
  rintro front behind rfl apart
  have spare : (Fields.keys behind).Nodup := distinct.sublist ((List.sublist_append_right front behind).map _)
  exact ⟨inWireOrder_append distinct apart, Fields.takeOut_perm spare wireKeys, inWireOrder_of_few distinct apart⟩

/-- A fragment with one entry besides the wire keys, which are in no order. -/
def positioned : Document :=
  [("$sort", .object [("age", .int 1)]), ("$position", .int 0), ("$each", .array [])]

theorem inWireOrder_turns_positioned :
    let path : FieldPath := ⟨[.field "top"], by decide⟩
    let update : Document := [("$set", .object [("a", .null)]), ("$push", .object [("top", .object positioned)])]
    positioned.keys.Nodup ∧ inWireOrder positioned = selected wireKeys positioned ++ positioned.without wireKeys ∧
      inWireOrder (inWireOrder positioned) = inWireOrder positioned ∧
      ∃ once twice, (thenSortBy "age" .descending).apply path update = .ok (some once) ∧
        (thenSortBy "age" .descending).apply path once = .ok (some twice) ∧
        (Wire.object twice).text = (Wire.object once).text := by
  intro path update
  have distinct : positioned.keys.Nodup := by decide
  have few : (positioned.without wireKeys).length ≤ 1 := by decide
  obtain ⟨_, places, _, again, patched⟩ := inWireOrder_turns_others positioned distinct
  obtain ⟨twice, applied, text⟩ := patched (thenSortBy "age" .descending) path update _ rfl rfl
  obtain ⟨_, _, kept⟩ := places [] positioned rfl (by simp [Fields.keys])
  exact ⟨distinct, kept few, again.mpr (.inr few), _, twice, rfl, applied, text.mpr few⟩

/-- A fragment with two entries behind its items. -/
def noted : Document :=
  [("$each", .array [.int 1]), ("$position", .int 0), ("note", .string "x")]

/-- The two entries change places, and change them back when the patch is applied again. -/
theorem inWireOrder_disorders_noted :
    let path : FieldPath := ⟨[.field "xs"], by decide⟩
    let update : Document := [("$push", .object [("xs", .object noted)])]
    noted.keys.Nodup ∧ inWireOrder noted ≠ selected wireKeys noted ++ noted.without wireKeys ∧
      inWireOrder (inWireOrder noted) ≠ inWireOrder noted ∧
      ∃ once twice, (slice (-3)).apply path update = .ok (some once) ∧
        (slice (-3)).apply path once = .ok (some twice) ∧ (Wire.object twice).text ≠ (Wire.object once).text := by
  intro path update
  refine ⟨by decide, ?_, ?_, _, _, rfl, rfl, by decide +kernel⟩
  · intro same
    exact absurd (congrArg Fields.keys same) (by decide)
  · intro same
    exact absurd (congrArg Fields.keys same) (by decide)

end DocChain.Patch
