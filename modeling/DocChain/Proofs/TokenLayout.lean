import DocChain.Proofs.Trimming

/-!
# Lexemes and the white space between them

A text that can be tokenized is a row of lexemes, with white space around them and nothing else. Lexemes with
white space between them are read as their tokens, since every token ends where white space begins.
-/

namespace DocChain

namespace Lexer

/-! ### Where a reading stops -/

theorem skip_skip (l : Lexer) (n m : Nat) : (l.skip n).skip m = l.skip (n + m) := by
  simp [skip, Nat.add_assoc]

theorem stringBody_skip (quote : Char) (start position : Nat) (text : List Char) :
    ∃ n ≤ text.length, (stringBody quote start position text).2 = (mk text position).skip n := by
  fun_induction stringBody quote start position text with
  | case1 position => exact ⟨0, Nat.le_refl _, rfl⟩
  | case2 | case3 | case4 | case5 => exact ⟨1, by simp, rfl⟩
  | case6 position d rest e known body l read other ih =>
    obtain ⟨n, inside, stopped⟩ := ih
    rw [read] at stopped
    refine ⟨n + 2, by simpa using inside, stopped.trans ?_⟩
    simp only [skip, List.drop_succ_cons, mk.injEq, true_and]
    omega
  | case7 position c d rest other plain body l read ih =>
    obtain ⟨n, inside, stopped⟩ := ih
    rw [read] at stopped
    refine ⟨n + 1, by simpa using inside, stopped.trans ?_⟩
    simp only [skip, List.drop_succ_cons, mk.injEq, true_and]
    omega

theorem symbol_skip (l : Lexer) (c : Char) : ∃ n ≤ l.rest.length, (l.symbol c).2 = l.skip n := by
  unfold symbol
  split
  · rename_i form token found
    have leads : form <+: l.rest := by simpa using List.find?_some found
    exact ⟨form.length, leads.length_le, rfl⟩
  · exact ⟨0, Nat.zero_le _, by simp [skip]⟩

theorem number_skip (l : Lexer) : ∃ n ≤ l.rest.length, l.number.2 = l.skip n := by
  unfold number
  split <;> rename_i parts
  · have inside := length_numberParts parts
    exact ⟨_, by simpa [Nat.add_assoc] using inside, rfl⟩
  · have inside := length_numberParts parts
    exact ⟨_, by simpa using inside, rfl⟩

theorem token_skip {l : Lexer} {c : Char} {rest : List Char} (first : l.rest = c :: rest) :
    ∃ n ≤ l.rest.length, (l.token c rest).2 = l.skip n := by
  have name (text : List Char) : (text.takeWhile continuesName).length ≤ text.length :=
    (List.takeWhile_prefix _).length_le
  unfold token
  split
  · refine ⟨_, ?_, rfl⟩
    have := name rest
    rw [first, List.length_cons]
    omega
  · split
    · obtain ⟨n, inside, stopped⟩ := stringBody_skip c l.position (l.position + 1) rest
      refine ⟨n + 1, by simpa [first] using inside, ?_⟩
      simp only [stopped, skip, first, List.drop_succ_cons, mk.injEq, true_and]
      omega
    · split
      · exact ⟨_, name l.rest, rfl⟩
      · split
        · exact number_skip l
        · exact symbol_skip l c

/-- A reading goes forward in the text, to the place that its position says. -/
theorem next_skip (l : Lexer) : ∃ n ≤ l.rest.length, l.next.2 = l.skip n := by
  have blanks : (l.rest.takeWhile Unicode.isBlank).length ≤ l.rest.length := (List.takeWhile_prefix _).length_le
  unfold next
  split
  · exact ⟨_, blanks, rfl⟩
  · rename_i c rest first
    obtain ⟨n, inside, stopped⟩ := token_skip first
    rw [skipBlank] at inside stopped
    rw [length_skip] at inside
    refine ⟨(l.rest.takeWhile Unicode.isBlank).length + n, by omega, ?_⟩
    rw [skipBlank]
    simpa only [skip_skip] using stopped

/-! ### The forms of tokens -/

/-- How a string is written behind its opening quote, up to the closing one. -/
inductive StringForm (quote : Char) : List Char → List Char → Prop where
  | close : StringForm quote [quote] []
  | escape {letter e : Char} {text s : List Char} (known : escape? letter = some e)
      (behind : StringForm quote text s) : StringForm quote ('\\' :: letter :: text) (e :: s)
  | literal {c : Char} {text s : List Char} (other : c ≠ quote) (plain : c ≠ '\\')
      (behind : StringForm quote text s) : StringForm quote (c :: text) (c :: s)

theorem taken?_stringBody_iff {quote : Char} (mark : '\\' ≠ quote) {start position : Nat} {text s rest : List Char} :
    taken? (stringBody quote start position text) = some (s, rest) ↔
      ∃ form, text = form ++ rest ∧ StringForm quote form s := by
  constructor
  · intro read
    fun_induction stringBody quote start position text generalizing s with
    | case1 | case3 | case5 => cases read
    | case2 | case4 =>
      cases read
      exact ⟨_, rfl, .close⟩
    | case6 position letter text e known body l answer other ih =>
      rw [taken?_map (e :: ·) (body, l), Option.map_eq_some_iff] at read
      obtain ⟨⟨inner, left⟩, inside, same⟩ := read
      cases same
      rw [answer] at ih
      obtain ⟨form, rfl, behind⟩ := ih inside
      exact ⟨_, rfl, .escape known behind⟩
    | case7 position c d text other plain body l answer ih =>
      rw [taken?_map (c :: ·) (body, l), Option.map_eq_some_iff] at read
      obtain ⟨⟨inner, left⟩, inside, same⟩ := read
      cases same
      rw [answer] at ih
      obtain ⟨form, split, behind⟩ := ih inside
      rw [split]
      exact ⟨_, rfl, .literal other plain behind⟩
  · rintro ⟨form, rfl, behind⟩
    induction behind generalizing position with
    | close => exact taken?_quote start position rest
    | escape known _ ih =>
      rw [List.cons_append, List.cons_append, taken?_escape _ _ mark, known, Option.bind_some, ih]
      rfl
    | literal other plain _ ih =>
      rw [List.cons_append, taken?_literal _ _ other plain, ih]
      rfl

/-- The texts that write a token. -/
inductive TokenForm : List Char → Token → Prop where
  | collection {name : List Char} (named : isName (.ofList name) = true) :
      TokenForm ('$' :: name) (.collection (.ofList name))
  | string {quote : Char} {text s : List Char} (mark : quote = '"' ∨ quote = '\'')
      (body : StringForm quote text s) : TokenForm (quote :: text) (.string (.ofList s))
  | word {name : List Char} (named : isName (.ofList name) = true) : TokenForm name (Lexer.word name)
  | integer {whole : List Char} (some : whole ≠ []) (digits : ∀ c ∈ whole, c.isDigit = true)
      (fits : digitsValue whole < 2 ^ 63) : TokenForm whole (.integer (Int64.ofNat (digitsValue whole)))
  | float {whole fraction : List Char} (some : whole ≠ []) (digits : ∀ c ∈ whole, c.isDigit = true)
      (more : fraction ≠ []) (places : ∀ c ∈ fraction, c.isDigit = true) :
      TokenForm (whole ++ '.' :: fraction)
        (.float (Float.ofScientific (digitsValue (whole ++ fraction)) true fraction.length))
  | symbol {form : List Char} {t : Token} (listed : (form, t) ∈ symbols) : TokenForm form t

theorem isName_takeWhile {text : List Char} (starts : text.head?.any startsName = true) :
    isName (.ofList (text.takeWhile continuesName)) = true := by
  rw [isName_iff, String.toList_ofList]
  refine ⟨?_, List.all_eq_true.mp List.all_takeWhile⟩
  cases text with
  | nil => cases starts
  | cons c text =>
    have first : startsName c = true := by simpa using starts
    exact ⟨c, text.takeWhile continuesName, by simp [continuesName_of_startsName first], first⟩

/-- What is skipped over is a text in front of the rest. -/
theorem append_skip {l : Lexer} {form : List Char} (leads : form <+: l.rest) :
    l.rest = form ++ (l.skip form.length).rest :=
  (List.prefix_iff_eq_append.mp leads).symm

theorem form_of_number {l after : Lexer} {c : Char} {text : List Char} {t : Token} (first : l.rest = c :: text)
    (digit : c.isDigit = true) (read : l.number = (.ok t, after)) :
    ∃ form, l.rest = form ++ after.rest ∧ TokenForm form t := by
  have some : l.rest.takeWhile Char.isDigit ≠ [] := by simp [first, digit]
  have digits : ∀ c ∈ l.rest.takeWhile Char.isDigit, c.isDigit = true := List.all_eq_true.mp List.all_takeWhile
  unfold number at read
  split at read <;> rename_i parts
  · obtain ⟨rfl, fraction⟩ := numberParts_form parts
    obtain ⟨more, places, leads⟩ := fraction _ rfl
    cases read
    refine ⟨_, ?_, .float some digits more places⟩
    have written := append_skip leads
    simpa only [List.length_append, List.length_cons, Nat.add_assoc, Nat.add_comm 1] using written
  · obtain ⟨rfl, _⟩ := numberParts_form parts
    split at read
    · cases read
      exact ⟨_, append_skip (List.takeWhile_prefix _), .integer some digits ‹_›⟩
    · cases read

/-- What is taken as a token has one of these forms. -/
theorem form_of_token {l after : Lexer} {c : Char} {text : List Char} {t : Token} (first : l.rest = c :: text)
    (read : l.token c text = (.ok t, after)) : ∃ form, l.rest = form ++ after.rest ∧ TokenForm form t := by
  unfold token at read
  split at read
  · rename_i named
    rw [Bool.and_eq_true, decide_eq_true_eq] at named
    obtain ⟨rfl, starts⟩ := named
    cases read
    refine ⟨_, ?_, .collection (isName_takeWhile starts)⟩
    have leads : '$' :: text.takeWhile continuesName <+: l.rest := by
      rw [first]
      exact List.cons_prefix_cons.mpr ⟨rfl, List.takeWhile_prefix _⟩
    simpa only [List.length_cons, Nat.add_comm 1] using append_skip leads
  · split at read
    · rename_i mark
      rw [Bool.or_eq_true, decide_eq_true_eq, decide_eq_true_eq] at mark
      have other : '\\' ≠ c := by
        rintro rfl
        rcases mark with same | same <;> cases same
      cases body : stringBody c l.position (l.position + 1) text with
      | mk answer stopped =>
        rw [body] at read
        cases answer with
        | error e => cases read
        | ok s =>
          cases read
          have taken : taken? (stringBody c l.position (l.position + 1) text) = some (s, after.rest) := by
            rw [body]
            rfl
          obtain ⟨form, rfl, written⟩ := (taken?_stringBody_iff other).mp taken
          exact ⟨c :: form, first, .string mark written⟩
    · split at read
      · rename_i starts
        cases read
        have named : l.rest.head?.any startsName = true := by simpa [first] using starts
        exact ⟨_, append_skip (List.takeWhile_prefix _), .word (isName_takeWhile named)⟩
      · split at read
        · exact form_of_number first ‹_› read
        · unfold symbol at read
          split at read
          · rename_i form token found
            have leads : form <+: l.rest := by simpa using List.find?_some found
            cases read
            exact ⟨_, append_skip leads, .symbol (List.mem_of_find?_eq_some found)⟩
          · cases read

theorem form_of_next {text : List Char} {position : Nat} {t : Token} {after : Lexer}
    (read : (mk text position).next = (.ok (some t), after)) :
    ∃ lead form, text = lead ++ (form ++ after.rest) ∧ (∀ b ∈ lead, Unicode.isBlank b = true) ∧ TokenForm form t := by
  obtain ⟨lead, solid, rfl, led, starts⟩ := exists_blank_append text
  rw [next_blanks led] at read
  rcases starts with rfl | ⟨c, rest, rfl, seen⟩
  · cases read
  · rw [next_of_token seen] at read
    cases found : (mk (c :: rest) (position + lead.length)).token c rest with
    | mk answer stopped =>
      rw [found] at read
      cases answer with
      | error e => cases read
      | ok t' =>
        cases read
        obtain ⟨form, written, formed⟩ := form_of_token rfl found
        exact ⟨lead, form, congrArg (lead ++ ·) written, led, formed⟩

/-! ### Reading a form -/

theorem symbols_first : ∀ s ∈ symbols, symbols.find? (fun other => other.1.isPrefixOf s.1) = some s := by
  decide +kernel

/-- How marks begin: not as names, numbers or strings do, and with `$` only where it stands alone. -/
theorem symbols_head : ∀ s ∈ symbols, ∃ c ∈ s.1.head?, Unicode.isBlank c = false ∧ startsName c = false ∧
    c.isDigit = false ∧ c ≠ '"' ∧ c ≠ '\'' ∧ (c = '$' → s.1 = ['$']) := by
  have checked : ∀ s ∈ symbols, s.1.head?.any (fun c => !Unicode.isBlank c && (!startsName c && (!c.isDigit &&
      (c != '"' && (c != '\'' && (c != '$' || s.1 == ['$'])))))) = true := by
    decide +kernel
  intro s listed
  obtain ⟨c, first, facts⟩ := (Option.any_eq_true _ _).mp (checked s listed)
  simp only [Bool.and_eq_true, Bool.or_eq_true, Bool.not_eq_true', bne_iff_ne, beq_iff_eq] at facts
  obtain ⟨solid, noName, noDigit, noQuote, noApostrophe, mark⟩ := facts
  refine ⟨c, first, solid, noName, noDigit, noQuote, noApostrophe, ?_⟩
  intro dollar
  exact mark.resolve_left (not_not_intro dollar)

/-- Every form begins with a character that is no white space. -/
theorem TokenForm.solid {form : List Char} {t : Token} (formed : TokenForm form t) :
    ∃ c text, form = c :: text ∧ Unicode.isBlank c = false := by
  cases formed with
  | collection named => exact ⟨_, _, rfl, rfl⟩
  | string mark body =>
    refine ⟨_, _, rfl, ?_⟩
    rcases mark with rfl | rfl <;> rfl
  | word named =>
    obtain ⟨⟨c, behind, first, starts⟩, _⟩ := (isName_iff _).mp named
    rw [String.toList_ofList] at first
    exact ⟨c, behind, first, not_blank_of_startsName starts⟩
  | integer some digits fits =>
    obtain ⟨c, behind, rfl⟩ := List.exists_cons_of_ne_nil some
    exact ⟨c, behind, rfl, not_blank_of_isDigit (digits c List.mem_cons_self)⟩
  | float some digits more places =>
    obtain ⟨c, behind, rfl⟩ := List.exists_cons_of_ne_nil some
    exact ⟨c, _, rfl, not_blank_of_isDigit (digits c List.mem_cons_self)⟩
  | symbol listed =>
    obtain ⟨c, first, seen, _⟩ := symbols_head _ listed
    obtain ⟨text, rfl⟩ := List.head?_eq_some_iff.mp first
    exact ⟨c, text, rfl, seen⟩

theorem reads_stringForm {quote : Char} {text s rest : List Char} (mark : quote = '"' ∨ quote = '\'')
    (body : StringForm quote text s) : Reads (quote :: text) (.string (.ofList s)) rest := by
  intro position
  have other : '\\' ≠ quote := by
    rintro rfl
    rcases mark with same | same <;> cases same
  have taken : taken? (stringBody quote position (position + 1) (text ++ rest)) = some (s, rest) :=
    (taken?_stringBody_iff other).mpr ⟨text, rfl, body⟩
  obtain ⟨position', read⟩ := taken?_eq_some.mp taken
  refine ⟨position', ?_⟩
  have seen : Unicode.isBlank quote = false := by
    rcases mark with rfl | rfl <;> rfl
  have noCollection : quote ≠ '$' := by
    rcases mark with rfl | rfl <;> decide
  rw [List.cons_append, next_of_token seen, token, if_neg (by simp [noCollection]), if_pos (by simpa using mark)]
  simp only [read]
  rfl

section
variable {rest : List Char} (ends : ∀ b ∈ rest.head?, Unicode.isBlank b = true)
include ends

theorem boundary_of_blank : Boundary rest := by
  constructor
  · intro c first
    exact not_continuesName_of_blank (ends c first)
  · rintro c behind rfl
    cases ends '.' rfl

theorem reads_symbolForm {form : List Char} {t : Token} (listed : (form, t) ∈ symbols) : Reads form t rest := by
  intro position
  obtain ⟨c, first, seen, noName, noDigit, noQuote, noMark, alone⟩ := symbols_head _ listed
  obtain ⟨text, rfl⟩ := List.head?_eq_some_iff.mp first
  refine ⟨position + (c :: text).length, ?_⟩
  have noCollection : (decide (c = '$') && (text ++ rest).head?.any startsName) = false := by
    by_cases dollar : c = '$'
    -- A lone `$` has white space behind it, so it does not begin a collection.
    · obtain rfl : text = [] := (List.cons.inj (alone dollar)).2
      have other : rest.head?.any startsName = false := by
        cases rest with
        | nil => rfl
        | cons b rest =>
          cases starts : startsName b with
          | false => simpa using starts
          | true =>
            have blank := ends b rfl
            rw [not_blank_of_startsName starts] at blank
            cases blank
      simp [other]
    · simp [dollar]
  have found : symbols.find? (fun s => s.1.isPrefixOf (c :: text ++ rest)) = some (c :: text, t) := by
    rw [← symbols_first _ listed]
    exact List.find?_congr fun s known => isPrefixOf_append (not_blank_of_symbol s known) ends _
  have read : (mk (c :: text ++ rest) position).symbol c =
      (.ok t, ⟨rest, position + (c :: text).length⟩) := by
    unfold symbol
    rw [found]
    simp only [skip_append]
  rw [List.cons_append, next_of_token seen, token, noCollection, if_neg Bool.false_ne_true,
    if_neg (by simp [noQuote, noMark]), if_neg (by simp [noName]), if_neg (by simp [noDigit]), ← List.cons_append, read]
  rfl

/-- A form is read as its token where white space or the end follows. -/
theorem TokenForm.reads {form : List Char} {t : Token} (formed : TokenForm form t) : Reads form t rest := by
  have boundary := boundary_of_blank ends
  cases formed with
  | @collection name named =>
    have read := reads_collection named boundary
    rwa [String.toList_ofList] at read
  | string mark body => exact reads_stringForm mark body
  | @word name named =>
    have read := reads_name _ named boundary
    rwa [String.toList_ofList] at read
  | integer some digits fits => exact reads_integer digits boundary some fits
  | float some digits more places => exact reads_float digits boundary some places more
  | symbol listed => exact reads_symbolForm ends listed

end

/-! ### Lexemes -/

/-- A text that the lexer takes as a token, from its first character to its last. -/
structure IsLexeme (text : List Char) (t : Token) : Prop where
  nonempty : text ≠ []
  solid : ∀ c ∈ text.head?, Unicode.isBlank c = false
  token : (mk text 0).next.1 = .ok (some t)
  position : (mk text 0).next.2.position = text.length

theorem isLexeme_iff {text : List Char} {t : Token} : IsLexeme text t ↔ TokenForm text t := by
  constructor
  · intro lexeme
    obtain ⟨n, inside, stopped⟩ := next_skip (mk text 0)
    have place := lexeme.position
    rw [stopped] at place
    have all : n = text.length := by simpa [skip] using place
    have read : (mk text 0).next = (.ok (some t), (mk text 0).skip n) := Prod.ext lexeme.token stopped
    obtain ⟨lead, form, written, led, formed⟩ := form_of_next read
    -- Nothing is left behind the form, and no white space leads, so the form is the whole text.
    have nothing : ((mk text 0).skip n).rest = [] := by simp [skip, all]
    rw [nothing, List.append_nil] at written
    subst written
    cases lead with
    | nil => exact formed
    | cons b lead =>
      have seen := lexeme.solid b rfl
      rw [led b List.mem_cons_self] at seen
      cases seen
  · intro formed
    obtain ⟨c, rest, rfl, seen⟩ := formed.solid
    have ends : ∀ b ∈ ([] : List Char).head?, Unicode.isBlank b = true := by simp
    obtain ⟨position, read⟩ := formed.reads ends 0
    rw [List.append_nil] at read
    obtain ⟨n, inside, stopped⟩ := next_skip (mk (c :: rest) 0)
    rw [read] at stopped
    obtain ⟨ended, rfl⟩ := mk.inj stopped
    have all : (c :: rest).length ≤ n := List.drop_eq_nil_iff.mp ended.symm
    refine ⟨List.cons_ne_nil _ _, ?_, by rw [read], ?_⟩
    · rintro _ ⟨⟩
      exact seen
    · rw [read]
      have inside : n ≤ (c :: rest).length := inside
      simp only
      omega

end Lexer

open Lexer

theorem Lexes.blanks {blanks rest : List Char} {ts : List Token} (blank : ∀ b ∈ blanks, Unicode.isBlank b = true)
    (behind : Lexes rest ts) : Lexes (blanks ++ rest) ts := by
  induction blanks with
  | nil => exact behind
  | cons b blanks ih =>
    have here := blank b List.mem_cons_self
    exact .white here (ih fun b member => blank b (List.mem_cons_of_mem _ member))

/-- A lexeme with the white space behind it. -/
structure Lexeme where
  token : Token
  text : List Char
  behind : List Char
  taken : IsLexeme text token
  blank : ∀ b ∈ behind, Unicode.isBlank b = true

def Lexeme.row (lexemes : List Lexeme) : List Char :=
  lexemes.flatMap fun w => w.text ++ w.behind

/-- Lexemes are read one after the other, if white space stands between them. -/
theorem lexes_row {lexemes : List Lexeme} (apart : ∀ w ∈ lexemes.dropLast, w.behind ≠ []) :
    Lexes (Lexeme.row lexemes) (lexemes.map (·.token)) := by
  induction lexemes with
  | nil => exact Lexes.nil
  | cons w lexemes ih =>
    have ends : ∀ b ∈ (w.behind ++ Lexeme.row lexemes).head?, Unicode.isBlank b = true := by
      intro b first
      cases gap : w.behind with
      | nil =>
        cases lexemes with
        | nil => simp [gap, Lexeme.row] at first
        | cons w' lexemes => exact absurd gap (apart w (by simp))
      | cons b' behind =>
        obtain rfl : b' = b := by simpa [gap] using first
        exact w.blank b' (by simp [gap])
    have read := (isLexeme_iff.mp w.taken).reads ends
    have others : Lexes (Lexeme.row lexemes) (lexemes.map (·.token)) := by
      refine ih fun w' member => apart w' ?_
      cases lexemes with
      | nil => cases member
      | cons w'' lexemes => exact List.mem_cons_of_mem _ member
    have written : Lexeme.row (w :: lexemes) = w.text ++ (w.behind ++ Lexeme.row lexemes) := by
      simp [Lexeme.row]
    rw [written]
    exact .cons read (.blanks w.blank others)

theorem exists_row_of_tokens {text : List Char} {position : Nat} {ts : List Token}
    (read : (TokenStream.ofLexer ⟨text, position⟩).tokens = .ok ts) :
    ∃ lead lexemes, text = lead ++ Lexeme.row lexemes ∧ (∀ b ∈ lead, Unicode.isBlank b = true) ∧
      lexemes.map (·.token) = ts := by
  -- The white space in front of a token belongs to the lexeme before it, and the first of it leads the row.
  induction ts generalizing text position with
  | nil =>
    rcases first : (Lexer.mk text position).next with ⟨e | _ | t, l⟩
    · rw [tokens_of_error (congrArg Prod.fst first)] at read
      cases read
    · exact ⟨text, [], by simp [Lexeme.row], blank_of_next (congrArg Prod.fst first), rfl⟩
    · rw [ofLexer_of_some first, TokenStream.tokens] at read
      cases behind : (TokenStream.ofLexer l).tokens <;> rw [behind] at read <;> cases read
  | cons t ts ih =>
    rcases first : (Lexer.mk text position).next with ⟨e | _ | t', ⟨after, stopped⟩⟩
    · rw [tokens_of_error (congrArg Prod.fst first)] at read
      cases read
    · rw [ofLexer_of_none (congrArg Prod.fst first)] at read
      cases read
    · rw [ofLexer_of_some first, TokenStream.tokens] at read
      cases behind : (TokenStream.ofLexer ⟨after, stopped⟩).tokens with
      | error e =>
        rw [behind] at read
        cases read
      | ok more =>
        rw [behind] at read
        cases read
        obtain ⟨gap, lexemes, rfl, blank, rfl⟩ := ih behind
        obtain ⟨lead, form, rfl, led, formed⟩ := form_of_next first
        let w : Lexeme := ⟨t, form, gap, isLexeme_iff.mpr formed, blank⟩
        exact ⟨lead, w :: lexemes, by simp [Lexeme.row, w], led, rfl⟩

/-- Lexemes with white space between them are tokenized as their tokens, and every text that can be tokenized
is a row of lexemes of its tokens: each of its characters is in one of them or is white space. -/
theorem tokenize_lexemes :
    (∀ (lead : List Char) (lexemes : List Lexeme), (∀ b ∈ lead, Unicode.isBlank b = true) →
      (∀ w ∈ lexemes.dropLast, w.behind ≠ []) →
      tokenize (.ofList (lead ++ Lexeme.row lexemes)) = .ok (lexemes.map (·.token))) ∧
    ∀ (text : String) (ts : List Token), tokenize text = .ok ts →
      ∃ (lead : List Char) (lexemes : List Lexeme), (∀ b ∈ lead, Unicode.isBlank b = true) ∧
        text = .ofList (lead ++ Lexeme.row lexemes) ∧ lexemes.map (·.token) = ts := by
  constructor
  · intro lead lexemes led apart
    apply Lexes.tokenize
    rw [String.toList_ofList]
    exact .blanks led (lexes_row apart)
  · intro text ts read
    obtain ⟨lead, lexemes, written, led, tokens⟩ := exists_row_of_tokens read
    refine ⟨lead, lexemes, led, ?_, tokens⟩
    rw [← written]
    exact String.ofList_toList.symm

/-- `>=`, a string with white space inside and the number 18, each with a gap behind it but the last. -/
def scattered : List Lexeme :=
  [{ token := .greaterEqual, text := ['>', '='], behind := [' ']
     taken := ⟨by decide, by rintro _ ⟨⟩; rfl, rfl, rfl⟩, blank := List.forall_mem_singleton.mpr rfl },
   { token := .string "a\t= ", text := ['"', 'a', '\\', 't', '=', ' ', '"'], behind := ['\n', ' ']
     taken := ⟨by decide, by rintro _ ⟨⟩; rfl, rfl, rfl⟩
     blank := List.forall_mem_cons.mpr ⟨rfl, List.forall_mem_singleton.mpr rfl⟩ },
   { token := .integer 18, text := ['1', '8'], behind := []
     taken := ⟨by decide, by rintro _ ⟨⟩; rfl, rfl, rfl⟩, blank := List.forall_mem_nil _ }]

theorem tokenize_lexemes_scattered :
    (∀ w ∈ scattered.dropLast, w.behind ≠ []) ∧
      tokenize (.ofList ([' '] ++ Lexeme.row scattered)) = .ok [.greaterEqual, .string "a\t= ", .integer 18] ∧
      ∃ (lead : List Char) (lexemes : List Lexeme), (∀ b ∈ lead, Unicode.isBlank b = true) ∧
        "$x>=1.5.n" = .ofList (lead ++ Lexeme.row lexemes) ∧
        lexemes.map (·.token) = [.collection "x", .greaterEqual, .float 1.5, .dot, .identifier "n"] := by
  have apart : ∀ w ∈ scattered.dropLast, w.behind ≠ [] := by
    simp [scattered]
  have read : tokenize "$x>=1.5.n" = .ok [.collection "x", .greaterEqual, .float 1.5, .dot, .identifier "n"] := by
    decide +kernel
  have lead : ∀ b ∈ [' '], Unicode.isBlank b = true := List.forall_mem_singleton.mpr rfl
  exact ⟨apart, tokenize_lexemes.1 [' '] scattered lead apart, tokenize_lexemes.2 _ _ read⟩

end DocChain
