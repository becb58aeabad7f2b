import DocChain.Command
import DocChain.Proofs.Lexemes
import Mathlib.Data.List.Find

/-!
# White space around a text

A token ends where white space begins, so a text reads the same without the white space at its ends. What
a reading takes does not depend on the position either, which only errors show.
-/

namespace DocChain

namespace Lexer

/-! ### White space is in no name, number or mark -/

theorem not_numeric_of_blank :
    ∀ r ∈ Unicode.blankRanges, ∀ step < r.2 - r.1 + 1, Unicode.numericRanges.contains (r.1 + step) = false := by
  decide +kernel

theorem not_isNumeric_of_blank {c : Char} (blank : Unicode.isBlank c = true) : Unicode.isNumeric c = false := by
  by_cases ascii : c.toNat < 128
  · have low := isBlank_of_ascii ascii blank
    rw [Unicode.isNumeric_of_ascii ascii]
    cases digit : c.isDigit with
    | false => rfl
    | true =>
      have range : 48 ≤ c.toNat ∧ c.toNat ≤ 57 := Char.isDigit_iff_toNat.mp digit
      omega
  · rw [Unicode.isNumeric, if_neg ascii]
    obtain ⟨r, known, low, high⟩ := (Unicode.Ranges.contains_iff ..).mp blank
    have other := not_numeric_of_blank r known (c.toNat - r.1) (by omega)
    rwa [Nat.add_sub_cancel' low] at other

theorem not_continuesName_of_blank {c : Char} (blank : Unicode.isBlank c = true) : continuesName c = false := by
  cases continues : continuesName c with
  | false => rfl
  | true =>
    have other : startsName c = true := by
      simpa [continuesName, startsName, not_isNumeric_of_blank blank] using continues
    rw [not_blank_of_startsName other] at blank
    cases blank

theorem not_isDigit_of_blank {c : Char} (blank : Unicode.isBlank c = true) : c.isDigit = false := by
  cases digit : c.isDigit with
  | false => rfl
  | true =>
    rw [not_blank_of_isDigit digit] at blank
    cases blank

theorem not_blank_of_symbol : ∀ s ∈ symbols, s.1.all (!Unicode.isBlank ·) = true := by
  decide +kernel

/-- A text is white space and then something else, if anything. -/
theorem exists_blank_append (text : List Char) :
    ∃ lead solid, text = lead ++ solid ∧ (∀ b ∈ lead, Unicode.isBlank b = true) ∧
      (solid = [] ∨ ∃ c rest, solid = c :: rest ∧ Unicode.isBlank c = false) := by
  refine ⟨text.takeWhile Unicode.isBlank, text.dropWhile Unicode.isBlank, List.takeWhile_append_dropWhile.symm,
    List.all_eq_true.mp List.all_takeWhile, ?_⟩
  cases found : text.dropWhile Unicode.isBlank with
  | nil => exact .inl rfl
  | cons c rest =>
    refine .inr ⟨c, rest, rfl, ?_⟩
    have first := List.head?_dropWhile_not Unicode.isBlank text
    rw [found] at first
    simpa using first

/-! ### Text in front of white space -/

theorem isPrefixOf_append {form rest : List Char} (solid : form.all (!Unicode.isBlank ·) = true)
    (ends : ∀ b ∈ rest.head?, Unicode.isBlank b = true) (text : List Char) :
    form.isPrefixOf (text ++ rest) = form.isPrefixOf text := by
  induction text generalizing form with
  | nil =>
    cases form with
    | nil => simp
    | cons c form =>
      cases rest with
      | nil => rfl
      | cons b rest =>
        simp only [List.all_cons, Bool.and_eq_true, Bool.not_eq_true'] at solid
        have different : c ≠ b := by
          rintro rfl
          rw [ends c rfl] at solid
          cases solid.1
        simp [List.isPrefixOf, different]
  | cons d text ih =>
    cases form with
    | nil => simp
    | cons c form =>
      simp only [List.all_cons, Bool.and_eq_true] at solid
      simp [List.isPrefixOf, ih solid.2]

section
variable {blanks : List Char} (blank : ∀ b ∈ blanks, Unicode.isBlank b = true)
include blank

theorem takeWhile_append_blank {p : Char → Bool} (ends : ∀ b, Unicode.isBlank b = true → p b = false)
    (text : List Char) : (text ++ blanks).takeWhile p = text.takeWhile p := by
  induction text with
  | nil =>
    cases blanks with
    | nil => rfl
    | cons b blanks => simp [ends b (blank b (by simp))]
  | cons c text ih =>
    cases here : p c <;> simp [here, ih]

theorem dropWhile_append_blank {p : Char → Bool} (ends : ∀ b, Unicode.isBlank b = true → p b = false)
    (text : List Char) : (text ++ blanks).dropWhile p = text.dropWhile p ++ blanks := by
  induction text with
  | nil =>
    cases blanks with
    | nil => rfl
    | cons b blanks => simp [ends b (blank b (by simp))]
  | cons c text ih =>
    cases here : p c <;> simp [here, ih]

theorem head?_append_blank {p : Char → Bool} (ends : ∀ b, Unicode.isBlank b = true → p b = false)
    (text : List Char) : (text ++ blanks).head?.any p = text.head?.any p := by
  cases text with
  | cons c text => rfl
  | nil =>
    cases blanks with
    | nil => rfl
    | cons b blanks => simp [ends b (blank b (by simp))]

theorem numberParts_append_blank (text : List Char) : numberParts (text ++ blanks) = numberParts text := by
  have digits : ∀ b, Unicode.isBlank b = true → b.isDigit = false := fun b => not_isDigit_of_blank
  unfold numberParts
  rw [takeWhile_append_blank blank digits, dropWhile_append_blank blank digits]
  rcases text.dropWhile Char.isDigit with _ | ⟨c, behind⟩
  · -- Behind the digits there is white space alone, and so no point.
    cases blanks with
    | nil => rfl
    | cons b blanks =>
      have noPoint : b ≠ '.' := by
        rintro rfl
        cases blank '.' (by simp)
      simp [noPoint]
  · by_cases point : c = '.'
    · subst point
      simp only [List.cons_append, head?_append_blank blank digits, takeWhile_append_blank blank digits]
    · simp [point]

end

theorem numberParts_form {text whole : List Char} {fraction : Option (List Char)}
    (parts : numberParts text = (whole, fraction)) :
    whole = text.takeWhile Char.isDigit ∧ ∀ digits ∈ fraction, digits ≠ [] ∧ (∀ c ∈ digits, c.isDigit = true) ∧
      whole ++ '.' :: digits <+: text := by
  have pieces := List.takeWhile_append_dropWhile (p := Char.isDigit) (l := text)
  unfold numberParts at parts
  split at parts
  · rename_i behind point
    split at parts
    · rename_i more
      cases parts
      refine ⟨rfl, ?_⟩
      rintro digits ⟨⟩
      refine ⟨?_, List.all_eq_true.mp List.all_takeWhile, ?_⟩
      · cases behind with
        | nil => cases more
        | cons c behind =>
          have digit : c.isDigit = true := by simpa using more
          simp [digit]
      · rw [point] at pieces
        have tail : '.' :: behind.takeWhile Char.isDigit <+: '.' :: behind :=
          List.cons_prefix_cons.mpr ⟨rfl, List.takeWhile_prefix _⟩
        have whole := (List.prefix_append_right_inj (text.takeWhile Char.isDigit)).mpr tail
        rwa [pieces] at whole
    · cases parts
      exact ⟨rfl, by simp⟩
  · cases parts
    exact ⟨rfl, by simp⟩

theorem length_numberParts {text whole : List Char} {fraction : Option (List Char)}
    (parts : numberParts text = (whole, fraction)) :
    whole.length + (fraction.elim 0 fun digits => 1 + digits.length) ≤ text.length := by
  obtain ⟨rfl, places⟩ := numberParts_form parts
  cases fraction with
  | none => exact (List.takeWhile_prefix _).length_le
  | some digits =>
    have inside := (places digits rfl).2.2.length_le
    simp only [List.length_append, List.length_cons] at inside
    simp only [Option.elim]
    omega

/-! ### What a reading takes -/

/-- What a reading takes and what it leaves, unless it fails. -/
def taken? {α : Type} (answer : Except LexError α × Lexer) : Option (α × List Char) :=
  answer.1.toOption.map fun a => (a, answer.2.rest)

theorem taken?_eq_some {α : Type} {answer : Except LexError α × Lexer} {a : α} {rest : List Char} :
    taken? answer = some (a, rest) ↔ ∃ position, answer = (.ok a, ⟨rest, position⟩) := by
  obtain ⟨answer, text, position⟩ := answer
  cases answer <;> simp [taken?, Except.toOption]

/-- What is taken from a text in front of other text, which is left as well. -/
def inFront {α : Type} (behind : List Char) (found : α × List Char) : α × List Char :=
  (found.1, found.2 ++ behind)

theorem taken?_map {α β : Type} (f : α → β) (answer : Except LexError α × Lexer) :
    taken? (answer.1.map f, answer.2) = (taken? answer).map fun found => (f found.1, found.2) := by
  obtain ⟨answer, l⟩ := answer
  cases answer <;> rfl

theorem taken?_skip {α : Type} (answer : α) {text : List Char} {n : Nat} (inside : n ≤ text.length)
    (behind : List Char) (position position' : Nat) :
    taken? (.ok answer, (mk (text ++ behind) position).skip n) =
      (taken? (.ok answer, (mk text position').skip n)).map (inFront behind) := by
  simp [taken?, skip, inFront, Except.toOption, List.drop_append_of_le_length inside]

/-- No escape is written with white space. -/
theorem escape?_blank {c : Char} (blank : Unicode.isBlank c = true) : escape? c = none := by
  unfold escape?
  split <;> first | rfl | cases blank

section
variable {quote : Char} (start position : Nat)

theorem taken?_quote (rest : List Char) :
    taken? (stringBody quote start position (quote :: rest)) = some ([], rest) := by
  cases rest <;> simp [stringBody, taken?, Except.toOption]

theorem taken?_escape (other : '\\' ≠ quote) (d : Char) (rest : List Char) :
    taken? (stringBody quote start position ('\\' :: d :: rest)) =
      (escape? d).bind fun e =>
        (taken? (stringBody quote start (position + 2) rest)).map fun found => (e :: found.1, found.2) := by
  rw [stringBody, if_neg other, if_pos rfl]
  cases escape? d with
  | none => rfl
  | some e => exact taken?_map (e :: ·) _

/-- A character that stands for itself is taken only where another one follows. -/
theorem taken?_literal {c : Char} (other : c ≠ quote) (plain : c ≠ '\\') (rest : List Char) :
    taken? (stringBody quote start position (c :: rest)) =
      (taken? (stringBody quote start (position + 1) rest)).map fun found => (c :: found.1, found.2) := by
  cases rest with
  | nil => simp [stringBody, taken?, other, Except.toOption]
  | cons d rest =>
    rw [stringBody, if_neg other, if_neg plain]
    exact taken?_map (c :: ·) _

end

section
variable {blanks : List Char} (blank : ∀ b ∈ blanks, Unicode.isBlank b = true)
include blank

/-- White space does not close a string. -/
theorem taken?_stringBody_blank {quote : Char} (solid : Unicode.isBlank quote = false) (start position : Nat) :
    taken? (stringBody quote start position blanks) = none := by
  induction blanks generalizing position with
  | nil => rfl
  | cons b blanks ih =>
    have here := blank b List.mem_cons_self
    have other : b ≠ quote := by
      rintro rfl
      rw [here] at solid
      cases solid
    have plain : b ≠ '\\' := by
      rintro rfl
      cases here
    rw [taken?_literal _ _ other plain, ih fun b member => blank b (List.mem_cons_of_mem _ member)]
    rfl

theorem taken?_stringBody {quote : Char} (solid : Unicode.isBlank quote = false) (text : List Char)
    (start position start' position' : Nat) :
    taken? (stringBody quote start position (text ++ blanks)) =
      (taken? (stringBody quote start' position' text)).map (inFront blanks) := by
  fun_induction stringBody quote start' position' text generalizing position with
  | case1 => exact taken?_stringBody_blank blank solid start position
  | case2 => exact taken?_quote start position blanks
  | case3 _ c other =>
    by_cases backslash : c = '\\'
    · subst backslash
      -- The escape is cut off, and white space does not complete it.
      cases blanks with
      | nil => simp [stringBody, taken?, other, Except.toOption]
      | cons b blanks =>
        rw [List.cons_append, List.nil_append, taken?_escape _ _ other, escape?_blank (blank b (by simp))]
        rfl
    · rw [List.cons_append, List.nil_append, taken?_literal _ _ other backslash,
        taken?_stringBody_blank blank solid]
      rfl
  | case4 _ d rest => exact taken?_quote start position (d :: rest ++ blanks)
  | case5 _ d rest unknown other =>
    rw [List.cons_append, List.cons_append, taken?_escape _ _ other, unknown]
    rfl
  | case6 _ d rest e known body l read other ih =>
    rw [List.cons_append, List.cons_append, taken?_escape _ _ other, known, Option.bind_some, ih, read,
      taken?_map (e :: ·) (body, l)]
    cases taken? (body, l) <;> rfl
  | case7 _ c d rest other plain body l read ih =>
    rw [List.cons_append, taken?_literal _ _ other plain, ih, read, taken?_map (c :: ·) (body, l)]
    cases taken? (body, l) <;> rfl

theorem taken?_number (text : List Char) (position position' : Nat) :
    taken? (mk (text ++ blanks) position).number = (taken? (mk text position').number).map (inFront blanks) := by
  unfold number
  rw [numberParts_append_blank blank]
  cases parts : numberParts text with
  | mk whole fraction =>
    have inside := length_numberParts parts
    cases fraction with
    | none =>
      by_cases fits : digitsValue whole < 2 ^ 63
      · simp only [fits, if_true]
        exact taken?_skip _ (by simpa using inside) ..
      · simp only [fits, if_false]
        rfl
    | some fraction => exact taken?_skip _ (by simpa [Nat.add_assoc] using inside) ..

theorem taken?_symbol (c : Char) (text : List Char) (position position' : Nat) :
    taken? ((mk (text ++ blanks) position).symbol c) =
      (taken? ((mk text position').symbol c)).map (inFront blanks) := by
  have same : symbols.find? (fun s => s.1.isPrefixOf (text ++ blanks)) =
      symbols.find? (fun s => s.1.isPrefixOf text) :=
    List.find?_congr fun s known => isPrefixOf_append (not_blank_of_symbol s known)
      (fun b first => blank b (List.mem_of_head? first)) text
  unfold symbol
  rw [same]
  cases found : symbols.find? (fun s => s.1.isPrefixOf text) with
  | none => rfl
  | some s =>
    have leads : s.1 <+: text := by simpa using List.find?_some found
    exact taken?_skip _ leads.length_le ..

theorem taken?_token (c : Char) (rest : List Char) (position position' : Nat) :
    taken? ((mk (c :: (rest ++ blanks)) position).token c (rest ++ blanks)) =
      (taken? ((mk (c :: rest) position').token c rest)).map (inFront blanks) := by
  have names : ∀ b, Unicode.isBlank b = true → continuesName b = false := fun b => not_continuesName_of_blank
  have starts : ∀ b, Unicode.isBlank b = true → startsName b = false := by
    intro b blank
    cases named : startsName b with
    | false => rfl
    | true =>
      rw [not_blank_of_startsName named] at blank
      cases blank
  unfold token
  rw [head?_append_blank blank starts]
  split
  · rw [takeWhile_append_blank blank names]
    have inside : 1 + (rest.takeWhile continuesName).length ≤ (c :: rest).length := by
      have := (List.takeWhile_prefix (l := rest) continuesName).length_le
      simp only [List.length_cons]
      omega
    exact taken?_skip _ inside ..
  · split
    · rename_i quoted
      have solid : Unicode.isBlank c = false := by
        simp only [Bool.or_eq_true, decide_eq_true_eq] at quoted
        rcases quoted with rfl | rfl <;> rfl
      have same := taken?_stringBody blank solid rest position (position + 1) position' (position' + 1)
      rw [taken?_map (fun s => Token.string (String.ofList s)), taken?_map (fun s => Token.string (String.ofList s)),
        same]
      cases taken? (stringBody c position' (position' + 1) rest) <;> rfl
    · split
      · rw [← List.cons_append, takeWhile_append_blank blank names]
        exact taken?_skip _ (List.takeWhile_prefix _).length_le ..
      · split
        · exact taken?_number blank (c :: rest) position position'
        · exact taken?_symbol blank c (c :: rest) position position'

theorem next_blanks (text : List Char) (position : Nat) :
    (mk (blanks ++ text) position).next = (mk text (position + blanks.length)).next := by
  induction blanks generalizing position with
  | nil => rfl
  | cons b blanks ih =>
    rw [List.cons_append, next_blank (blank b List.mem_cons_self),
      ih fun b member => blank b (List.mem_cons_of_mem _ member), List.length_cons]
    congr 2
    omega

theorem next_of_blank (position : Nat) : (mk blanks position).next.1 = .ok none := by
  have skipped := next_blanks blank [] position
  rw [List.append_nil] at skipped
  rw [skipped]
  rfl

theorem taken?_next {c : Char} (seen : Unicode.isBlank c = false) (rest : List Char) (position position' : Nat) :
    taken? (mk (c :: rest ++ blanks) position).next =
      (taken? (mk (c :: rest) position').next).map (inFront blanks) := by
  rw [List.cons_append, next_of_token seen, next_of_token seen, taken?_map some, taken?_map some,
    taken?_token blank c rest position position']
  cases taken? ((mk (c :: rest) position').token c rest) <;> rfl

/-- A token in front of white space is taken without it as well, wherever the text stands. -/
theorem next_of_append_blank {text : List Char} {position : Nat} {t : Token} {l : Lexer}
    (read : (mk (text ++ blanks) position).next = (.ok (some t), l)) (position' : Nat) :
    ∃ rest, l.rest = rest ++ blanks ∧ ∃ behind, (mk text position').next = (.ok (some t), ⟨rest, behind⟩) := by
  obtain ⟨lead, solid, rfl, led, starts⟩ := exists_blank_append text
  rw [List.append_assoc, next_blanks led] at read
  rw [next_blanks led]
  rcases starts with rfl | ⟨c, rest, rfl, seen⟩
  · have ended := next_of_blank blank (position + lead.length)
    rw [List.nil_append] at read
    rw [read] at ended
    cases ended
  · have same := taken?_next blank seen rest (position + lead.length) (position' + lead.length)
    have long : taken? (mk (c :: rest ++ blanks) (position + lead.length)).next = some (some t, l.rest) := by
      rw [read]
      rfl
    rw [long] at same
    obtain ⟨⟨answer, left⟩, short, whole⟩ := Option.map_eq_some_iff.mp same.symm
    simp only [inFront, Prod.mk.injEq] at whole
    obtain ⟨rfl, ends⟩ := whole
    exact ⟨left, ends.symm, taken?_eq_some.mp short⟩

end

/-- A lexer is at its end where only white space is left. -/
theorem blank_of_next {text : List Char} {position : Nat} (ended : (mk text position).next.1 = .ok none) :
    ∀ b ∈ text, Unicode.isBlank b = true := by
  obtain ⟨lead, solid, rfl, led, starts⟩ := exists_blank_append text
  rw [next_blanks led] at ended
  rcases starts with rfl | ⟨c, rest, rfl, seen⟩
  · simpa using led
  · rw [next_of_token seen] at ended
    cases read : ((mk (c :: rest) (position + lead.length)).token c rest).1 with
    | error e =>
      rw [read] at ended
      cases ended
    | ok t =>
      rw [read] at ended
      cases ended

theorem next_of_append_blank_end {text blanks : List Char} {position : Nat}
    (ended : (mk (text ++ blanks) position).next.1 = .ok none) (position' : Nat) :
    (mk text position').next.1 = .ok none := by
  have blank := blank_of_next ended
  exact next_of_blank (fun b member => blank b (List.mem_append_left _ member)) position'

end Lexer

/-! ### Trimmed texts -/

theorem tokens_congr {l l' : Lexer} (same : l.next = l'.next) :
    (TokenStream.ofLexer l).tokens = (TokenStream.ofLexer l').tokens := by
  rcases read : l'.next with ⟨e | _ | t, after⟩
  · rw [tokens_of_error (congrArg Prod.fst (same.trans read)), tokens_of_error (congrArg Prod.fst read)]
  · rw [ofLexer_of_none (congrArg Prod.fst (same.trans read)), ofLexer_of_none (congrArg Prod.fst read)]
  · rw [ofLexer_of_some (same.trans read), ofLexer_of_some read]

/-- White space behind a text adds no token and takes none. -/
theorem tokens_of_append_blank {text blanks : List Char} (blank : ∀ b ∈ blanks, Unicode.isBlank b = true)
    {position : Nat} {ts : List Token} (read : (TokenStream.ofLexer ⟨text ++ blanks, position⟩).tokens = .ok ts)
    (position' : Nat) : (TokenStream.ofLexer ⟨text, position'⟩).tokens = .ok ts := by
  induction ts generalizing text position position' with
  | nil =>
    rcases first : (Lexer.mk (text ++ blanks) position).next with ⟨e | _ | t, l⟩
    · rw [tokens_of_error (congrArg Prod.fst first)] at read
      cases read
    · rw [ofLexer_of_none (Lexer.next_of_append_blank_end (congrArg Prod.fst first) position')]
      rfl
    · rw [ofLexer_of_some first, TokenStream.tokens] at read
      cases behind : (TokenStream.ofLexer l).tokens <;> rw [behind] at read <;> cases read
  | cons t ts ih =>
    rcases first : (Lexer.mk (text ++ blanks) position).next with ⟨e | _ | t', ⟨after, stopped⟩⟩
    · rw [tokens_of_error (congrArg Prod.fst first)] at read
      cases read
    · rw [ofLexer_of_none (congrArg Prod.fst first)] at read
      cases read
    · obtain ⟨rest, left, stopped', first'⟩ := Lexer.next_of_append_blank blank first position'
      obtain rfl : after = rest ++ blanks := left
      rw [ofLexer_of_some first, TokenStream.tokens] at read
      rw [ofLexer_of_some first', TokenStream.tokens]
      cases behind : (TokenStream.ofLexer ⟨rest ++ blanks, stopped⟩).tokens with
      | error e =>
        rw [behind] at read
        cases read
      | ok more =>
        rw [behind] at read
        cases read
        rw [ih behind stopped']
        rfl

/-- The text inside is what white space on both sides leaves. -/
theorem exists_trimBlank (text : String) : ∃ lead trail, text.toList = lead ++ ((trimBlank text).toList ++ trail) ∧
    (∀ b ∈ lead, Unicode.isBlank b = true) ∧ ∀ b ∈ trail, Unicode.isBlank b = true := by
  let inner := text.toList.dropWhile Unicode.isBlank
  refine ⟨text.toList.takeWhile Unicode.isBlank, (inner.reverse.takeWhile Unicode.isBlank).reverse, ?_,
    List.all_eq_true.mp List.all_takeWhile, fun b member => ?_⟩
  · have kept : (trimBlank text).toList = (inner.reverse.dropWhile Unicode.isBlank).reverse := by simp [trimBlank, inner]
    rw [kept, ← List.reverse_append, List.takeWhile_append_dropWhile, List.reverse_reverse,
      List.takeWhile_append_dropWhile]
  · exact List.all_eq_true.mp List.all_takeWhile b (List.mem_reverse.mp member)

theorem tokenize_trimBlank {text : String} {ts : List Token} (read : tokenize text = .ok ts) :
    tokenize (trimBlank text) = .ok ts := by
  obtain ⟨lead, trail, whole, led, trailed⟩ := exists_trimBlank text
  rw [tokenize, TokenStream.ofText, Lexer.ofText, whole, tokens_congr (Lexer.next_blanks led _ _)] at read
  exact tokens_of_append_blank trailed read 0

/-- The white space at the ends of a text makes no difference to the expression that it is read as. -/
theorem Expr.parse_trimBlank {text : String} {e : Expr} (parsed : Expr.parse text = .ok e) :
    Expr.parse (trimBlank text) = .ok e := by
  obtain ⟨ts, read, _⟩ := derives_of_parse parsed
  have stream := TokenStream.eq_ofTokens read
  have trimmed := TokenStream.eq_ofTokens (tokenize_trimBlank read)
  rwa [Expr.parse, trimmed, ← stream, ← Expr.parse]

theorem Expr.isEmpty_of_parse {text : String} {e : Expr} (parsed : Expr.parse text = .ok e) :
    text.isEmpty = false := by
  cases empty : text.isEmpty with
  | false => rfl
  | true =>
    obtain rfl := String.isEmpty_iff.mp empty
    obtain ⟨ts, read, derived⟩ := derives_of_parse parsed
    have none : tokenize "" = .ok [] := by
      refine Lexes.tokenize ?_
      exact Lexes.nil
    rw [none] at read
    cases read
    cases derived.length_le

end DocChain
