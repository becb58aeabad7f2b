import DocChain.Wire.Text
import DocChain.Proofs.FieldOrder

/-!
# The text of a document

A name in quotes ends where its text says (`stringText_append_inj`), so two orders of the same entries have different
texts (`text_eq_iff_of_perm`).
-/

namespace DocChain.Wire

/-! ### Characters of a string -/

/-- The characters with a backslash in front. -/
def escapedChars : List Char :=
  '"' :: '\\' :: (List.range 32).map Char.ofNat

theorem stringChar_plain {c : Char} (plain : c ∉ escapedChars) : stringChar c = [c] := by
  have high : ¬c.toNat < 32 := by
    intro low
    refine plain (List.mem_cons_of_mem _ (List.mem_cons_of_mem _ ?_))
    exact List.mem_map.mpr ⟨c.toNat, List.mem_range.mpr low, Char.ofNat_toNat c⟩
  unfold stringChar
  split
  case h_8 => rw [if_neg high]
  all_goals exact absurd (by decide) plain

theorem stringChar_escaped {c : Char} (escaped : c ∈ escapedChars) :
    (stringChar c).head? = some '\\' ∧ 1 < (stringChar c).length := by
  have table : escapedChars.all fun c => (stringChar c).head? = some '\\' ∧ 1 < (stringChar c).length := by
    decide +kernel
  exact of_decide_eq_true (List.all_eq_true.mp table c escaped)

theorem escaped_prefixFree {c c' : Char} (escaped : c ∈ escapedChars) (escaped' : c' ∈ escapedChars)
    (within : stringChar c <+: stringChar c') : c = c' := by
  have table : escapedChars.all fun c => escapedChars.all fun c' => stringChar c <+: stringChar c' → c = c' := by
    decide +kernel
  exact of_decide_eq_true (List.all_eq_true.mp (List.all_eq_true.mp table c escaped) c' escaped') within

/-- No character's form begins another's. -/
theorem stringChar_begins_inj {c c' : Char} (within : stringChar c <+: stringChar c') : c = c' := by
  by_cases escaped : c ∈ escapedChars
  · by_cases escaped' : c' ∈ escapedChars
    · exact escaped_prefixFree escaped escaped' within
    · have long := (stringChar_escaped escaped).2
      have short := within.length_le
      rw [stringChar_plain escaped', List.length_singleton] at short
      omega
  · rw [stringChar_plain escaped, List.cons_prefix_iff] at within
    obtain ⟨letters, form, _⟩ := within
    by_cases escaped' : c' ∈ escapedChars
    · have first := (stringChar_escaped escaped').1
      rw [form, List.head?_cons, Option.some.injEq] at first
      exact absurd (first ▸ by decide) escaped
    · rw [stringChar_plain escaped'] at form
      exact (List.cons.inj form).1.symm

theorem stringChar_append_inj {c c' : Char} {u v : List Char} (same : stringChar c ++ u = stringChar c' ++ v) :
    c = c' ∧ u = v := by
  have chars : c = c' := by
    have first : stringChar c <+: stringChar c' ++ v := same ▸ List.prefix_append _ u
    rcases List.prefix_or_prefix_of_prefix first (List.prefix_append _ v) with within | within
    · exact stringChar_begins_inj within
    · exact (stringChar_begins_inj within).symm
  subst chars
  exact ⟨rfl, List.append_cancel_left same⟩

theorem quote_ne_stringChar (c : Char) (u v : List Char) : '"' :: u ≠ stringChar c ++ v := by
  intro same
  have quote : (stringChar c ++ v).head? = some '"' := by rw [← same, List.head?_cons]
  by_cases escaped : c ∈ escapedChars
  · rw [List.head?_append, (stringChar_escaped escaped).1] at quote
    cases quote
  · rw [stringChar_plain escaped] at quote
    cases quote
    exact escaped (by decide)

theorem stringChars_append_inj {s t u v : List Char}
    (same : s.flatMap stringChar ++ '"' :: u = t.flatMap stringChar ++ '"' :: v) : s = t ∧ u = v := by
  induction s generalizing t with
  | nil =>
    cases t with
    | nil => exact ⟨rfl, (List.cons.inj same).2⟩
    | cons c t =>
      rw [List.flatMap_cons, List.append_assoc] at same
      exact absurd same (quote_ne_stringChar c _ _)
  | cons c s ih =>
    cases t with
    | nil =>
      rw [List.flatMap_cons, List.append_assoc] at same
      exact absurd same.symm (quote_ne_stringChar c _ _)
    | cons c' t =>
      rw [List.flatMap_cons, List.flatMap_cons, List.append_assoc, List.append_assoc] at same
      obtain ⟨rfl, later⟩ := stringChar_append_inj same
      obtain ⟨rfl, behind⟩ := ih later
      exact ⟨rfl, behind⟩

/-- A text in quotes ends where it says. -/
theorem stringText_append_inj {s t u v : String} (same : stringText s ++ u = stringText t ++ v) : s = t ∧ u = v := by
  have chars := congrArg String.toList same
  simp only [stringText, String.toList_append, String.toList_ofList, List.cons_append, List.append_assoc,
    List.nil_append, List.cons.injEq, true_and] at chars
  obtain ⟨inner, behind⟩ := stringChars_append_inj chars
  exact ⟨String.toList_inj.mp inner, String.toList_inj.mp behind⟩

/-! ### Entries of a document -/

def entryText (entry : String × Wire) : String :=
  stringText entry.1 ++ ":" ++ entry.2.text

/-- The entries of a document, each with a comma in front. -/
def entriesText : Document → String
  | [] => ""
  | entry :: rest => "," ++ entryText entry ++ entriesText rest

theorem intercalate_fieldTexts (entry : String × Wire) (rest : Document) :
    ",".intercalate (fieldTexts (entry :: rest)) = entryText entry ++ entriesText rest := by
  induction rest generalizing entry with
  | nil => simp [fieldTexts, entryText, entriesText]
  | cons next rest ih =>
    have first : fieldTexts (entry :: next :: rest) = entryText entry :: fieldTexts (next :: rest) := rfl
    have second : fieldTexts (next :: rest) = entryText next :: fieldTexts rest := rfl
    rw [first, second, String.intercalate_cons_cons, ← second, ih, entriesText]
    simp only [String.append_assoc]

theorem text_object_eq_iff {d d' : Document} (some : d ≠ []) (some' : d' ≠ []) :
    (Wire.object d).text = (Wire.object d').text ↔ entriesText d = entriesText d' := by
  obtain ⟨entry, rest, rfl⟩ := List.exists_cons_of_ne_nil some
  obtain ⟨entry', rest', rfl⟩ := List.exists_cons_of_ne_nil some'
  rw [text, text, intercalate_fieldTexts, intercalate_fieldTexts, entriesText, entriesText, String.append_left_inj,
    String.append_right_inj, String.append_assoc, String.append_assoc, String.append_right_inj]

/-- The texts of two documents that differ in the value of one name differ in the text of this value. -/
theorem text_insert_eq_iff (d : Document) (key : String) (a b : Wire) :
    (Wire.object (d.insert key a)).text = (Wire.object (d.insert key b)).text ↔ a.text = b.text := by
  rw [text_object_eq_iff (Fields.insert_ne_nil _ _ _) (Fields.insert_ne_nil _ _ _)]
  induction d with
  | nil => simp [Fields.insert, entriesText, entryText]
  | cons entry rest ih =>
    obtain ⟨name, old⟩ := entry
    by_cases here : name = key
    · simp [Fields.insert, entriesText, entryText, here]
    · simp [Fields.insert, entriesText, here, ih]

theorem eq_of_entriesText {d d' : Document} (perm : d.Perm d') (distinct : d.keys.Nodup)
    (same : entriesText d = entriesText d') : d = d' := by
  induction d generalizing d' with
  | nil => exact perm.nil_eq
  | cons entry rest ih =>
    obtain ⟨name, value⟩ := entry
    cases d' with
    | nil => exact absurd perm.length_eq (by simp)
    | cons entry' rest' =>
      obtain ⟨name', value'⟩ := entry'
      simp only [entriesText, entryText, String.append_assoc, String.append_right_inj] at same
      obtain ⟨rfl, same⟩ := stringText_append_inj same
      -- The name stands once, so both documents hold the same value under it.
      have read : Fields.get? ((name, value) :: rest) name = Fields.get? ((name, value') :: rest') name :=
        Fields.get?_of_perm perm distinct name
      obtain rfl : value = value' := by simpa [Fields.get?] using read
      have later : rest = rest' := ih perm.cons_inv (List.nodup_cons.mp distinct).2 (by simpa using same)
      rw [later]

/-- A text tells in which order a document has its entries. -/
theorem text_eq_iff_of_perm {d d' : Document} (perm : d.Perm d') (distinct : d.keys.Nodup) :
    (Wire.object d).text = (Wire.object d').text ↔ d = d' := by
  constructor
  · intro same
    cases d with
    | nil => exact perm.nil_eq
    | cons entry rest =>
      have some : d' ≠ [] := by
        rintro rfl
        exact List.cons_ne_nil _ _ perm.eq_nil
      exact eq_of_entriesText perm distinct ((text_object_eq_iff (List.cons_ne_nil _ _) some).mp same)
  · intro same
    rw [same]

end DocChain.Wire
