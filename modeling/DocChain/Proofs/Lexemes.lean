import DocChain.Proofs.ParserSoundness
import DocChain.Proofs.Printed

/-!
# Reading single tokens

`Reads` says which token the lexer takes from the head of a text, and `Lexes` what it takes from all of it.
A name or a number ends where a `Boundary` follows; quoted text and marks end by themselves.
-/

namespace DocChain

namespace Lexer

/-! ### Kinds of characters -/

theorem not_alphabetic_of_blank :
    ∀ r ∈ Unicode.blankRanges, ∀ step < r.2 - r.1 + 1, Unicode.alphabeticRanges.contains (r.1 + step) = false := by
  decide +kernel

theorem isAlpha_iff (c : Char) :
    c.isAlpha = true ↔ 65 ≤ c.toNat ∧ c.toNat ≤ 90 ∨ 97 ≤ c.toNat ∧ c.toNat ≤ 122 := by
  have upper : c.isUpper = decide (65 ≤ c.toNat ∧ c.toNat ≤ 90) := rfl
  have lower : c.isLower = (decide (97 ≤ c.toNat) && decide (c.toNat ≤ 122)) := rfl
  have letter : c.isAlpha = (c.isUpper || c.isLower) := rfl
  rw [letter, upper, lower, Bool.or_eq_true, Bool.and_eq_true, decide_eq_true_eq, decide_eq_true_eq, decide_eq_true_eq]

theorem isBlank_of_ascii {c : Char} (ascii : c.toNat < 128) (blank : Unicode.isBlank c = true) :
    c.toNat ≤ 32 := by
  obtain ⟨r, known, low, high⟩ := (Unicode.Ranges.contains_iff ..).mp blank
  simp only [Unicode.blankRanges, List.mem_cons, List.not_mem_nil, or_false] at known
  rcases known with rfl | rfl | rfl | rfl | rfl | rfl | rfl | rfl | rfl | rfl <;> omega

theorem not_blank_of_startsName {c : Char} (starts : startsName c = true) : Unicode.isBlank c = false := by
  cases blank : Unicode.isBlank c with
  | false => rfl
  | true =>
    simp only [startsName, Bool.or_eq_true, decide_eq_true_eq] at starts
    rcases starts with letter | rfl
    · by_cases ascii : c.toNat < 128
      · rw [Unicode.isAlphabetic_of_ascii ascii, isAlpha_iff] at letter
        have := isBlank_of_ascii ascii blank
        omega
      · rw [Unicode.isAlphabetic, if_neg ascii] at letter
        -- Outside of ASCII both are tables, and no range of the one meets the other.
        obtain ⟨r, known, low, high⟩ := (Unicode.Ranges.contains_iff ..).mp blank
        have other := not_alphabetic_of_blank r known (c.toNat - r.1) (by omega)
        rw [Nat.add_sub_cancel' low, letter] at other
        cases other
    · cases blank

theorem not_digit_of_startsName {c : Char} (starts : startsName c = true) : c.isDigit = false := by
  cases digit : c.isDigit with
  | false => rfl
  | true =>
    have range : 48 ≤ c.toNat ∧ c.toNat ≤ 57 := Char.isDigit_iff_toNat.mp digit
    simp only [startsName, Bool.or_eq_true, decide_eq_true_eq] at starts
    rcases starts with letter | rfl
    · rw [Unicode.isAlphabetic_of_ascii (by omega), isAlpha_iff] at letter
      omega
    · cases digit

theorem continuesName_of_isDigit {c : Char} (digit : c.isDigit = true) : continuesName c = true := by
  have range : 48 ≤ c.toNat ∧ c.toNat ≤ 57 := Char.isDigit_iff_toNat.mp digit
  simp [continuesName, Unicode.isNumeric_of_ascii (show c.toNat < 128 by omega), digit]

theorem not_blank_of_isDigit {c : Char} (digit : c.isDigit = true) : Unicode.isBlank c = false := by
  have range : 48 ≤ c.toNat ∧ c.toNat ≤ 57 := Char.isDigit_iff_toNat.mp digit
  cases blank : Unicode.isBlank c with
  | false => rfl
  | true =>
    have := isBlank_of_ascii (by omega) blank
    omega

/-! ### One token -/

/-- Whether the lexer takes a token from `text` in front of `rest`. -/
def Reads (text : List Char) (t : Token) (rest : List Char) : Prop :=
  ∀ position, ∃ position', (mk (text ++ rest) position).next = (.ok (some t), ⟨rest, position'⟩)

/-- What names and numbers can end before: no character that goes on with a name, and no point with a digit
behind it. -/
structure Boundary (rest : List Char) : Prop where
  name : ∀ c ∈ rest.head?, continuesName c = false
  point : ∀ c behind, rest = '.' :: c :: behind → c.isDigit = false

theorem Boundary.nil : Boundary [] :=
  ⟨by simp, by simp⟩

theorem Boundary.mark {c : Char} (name : continuesName c = false) (point : c ≠ '.') (rest : List Char) :
    Boundary (c :: rest) := by
  constructor
  · rintro _ ⟨⟩
    exact name
  · rintro _ _ ⟨⟩
    exact absurd rfl point

theorem Boundary.dot {c : Char} (starts : startsName c = true) (rest : List Char) : Boundary ('.' :: c :: rest) := by
  constructor
  · rintro _ ⟨⟩
    rfl
  · rintro _ _ ⟨⟩
    exact not_digit_of_startsName starts

section
variable {rest : List Char} {t : Token}

/-- The characters of one kind in front of what does not begin with one. -/
theorem takeWhile_append {p : Char → Bool} {text : List Char} (all : ∀ c ∈ text, p c = true)
    (ends : ∀ c ∈ rest.head?, p c = false) : (text ++ rest).takeWhile p = text := by
  rw [List.takeWhile_append_of_pos all]
  cases rest with
  | nil => simp
  | cons c rest => simp [ends c rfl]

theorem dropWhile_append {p : Char → Bool} {text : List Char} (all : ∀ c ∈ text, p c = true)
    (ends : ∀ c ∈ rest.head?, p c = false) : (text ++ rest).dropWhile p = rest := by
  rw [List.dropWhile_append_of_pos all]
  cases rest with
  | nil => rfl
  | cons c rest => simp [ends c rfl]

theorem next_of_token {c : Char} {text : List Char} (seen : Unicode.isBlank c = false) (position : Nat) :
    (mk (c :: text) position).next =
      (((mk (c :: text) position).token c text).1.map some, ((mk (c :: text) position).token c text).2) := by
  have unmoved : (mk (c :: text) position).skipBlank = mk (c :: text) position := by
    simp [skipBlank, skip, seen]
  simp only [next, unmoved]

theorem next_blank {b : Char} (blank : Unicode.isBlank b = true) (text : List Char) (position : Nat) :
    (mk (b :: text) position).next = (mk text (position + 1)).next := by
  have moved : (mk (b :: text) position).skipBlank = (mk text (position + 1)).skipBlank := by
    simp only [skipBlank, skip, List.takeWhile_cons_of_pos blank, List.length_cons, List.drop_succ_cons,
      mk.injEq, true_and]
    omega
  simp only [next, moved]

theorem skip_append (text : List Char) (position : Nat) :
    (mk (text ++ rest) position).skip text.length = ⟨rest, position + text.length⟩ := by
  simp [skip]

/-! ### Names -/

theorem isName_iff (name : String) : isName name = true ↔
    (∃ c behind, name.toList = c :: behind ∧ startsName c = true) ∧ ∀ c ∈ name.toList, continuesName c = true := by
  rw [isName, Bool.and_eq_true, List.all_eq_true]
  cases name.toList <;> simp

theorem Boundary.member {name : String} (plain : isPlainName name = true) (rest : List Char) :
    Boundary ('.' :: (name.toList ++ rest)) := by
  simp only [isPlainName, Bool.and_eq_true] at plain
  obtain ⟨⟨c, behind, first, starts⟩, _⟩ := (isName_iff name).mp plain.1
  rw [first]
  exact .dot starts _

/-- A name is read as its word. -/
theorem reads_name (name : String) (named : isName name = true) (boundary : Boundary rest) :
    Reads name.toList (word name.toList) rest := by
  intro position
  obtain ⟨⟨c, behind, first, starts⟩, all⟩ := (isName_iff name).mp named
  have taken : (name.toList ++ rest).takeWhile continuesName = name.toList := takeWhile_append all boundary.name
  have plain : c ≠ '$' ∧ c ≠ '"' ∧ c ≠ '\'' := by
    refine ⟨?_, ?_, ?_⟩ <;> rintro rfl <;> cases starts
  refine ⟨position + name.toList.length, ?_⟩
  rw [first] at taken ⊢
  rw [List.cons_append, next_of_token (not_blank_of_startsName starts), token]
  simp only [plain, decide_false, Bool.false_and, Bool.false_eq_true, if_false, starts, if_true]
  rw [← List.cons_append, taken, skip_append]
  rfl

theorem word_of_isPlainName {name : String} (plain : isPlainName name = true) :
    word name.toList = .identifier name := by
  simp only [isPlainName, Bool.and_eq_true, Bool.not_eq_true'] at plain
  obtain ⟨_, other⟩ := plain
  unfold word
  rw [String.ofList_toList]
  split <;> first | rfl | cases other

theorem reads_identifier {name : String} (plain : isPlainName name = true) (boundary : Boundary rest) :
    Reads name.toList (.identifier name) rest := by
  have named : isName name = true := by
    rw [isPlainName, Bool.and_eq_true] at plain
    exact plain.1
  rw [← word_of_isPlainName plain]
  exact reads_name name named boundary

theorem reads_collection {name : String} (named : isName name = true) (boundary : Boundary rest) :
    Reads ('$' :: name.toList) (.collection name) rest := by
  intro position
  obtain ⟨⟨c, behind, first, starts⟩, all⟩ := (isName_iff name).mp named
  have taken : (name.toList ++ rest).takeWhile continuesName = name.toList := takeWhile_append all boundary.name
  have head : (name.toList ++ rest).head?.any startsName = true := by simp [first, starts]
  refine ⟨position + (1 + name.toList.length), ?_⟩
  rw [List.cons_append, next_of_token (by decide), token]
  simp only [head, decide_true, Bool.and_self, if_true, taken, String.ofList_toList]
  simp [skip, Nat.add_comm 1, Except.map]

/-- A source without a name. -/
theorem reads_root (boundary : Boundary rest) : Reads ['$'] .dollar rest := by
  intro position
  have head : rest.head?.any startsName = false := by
    cases rest with
    | nil => rfl
    | cons c rest =>
      have ends := boundary.name c rfl
      cases starts : startsName c with
      | false => simpa using starts
      | true =>
        rw [continuesName_of_startsName starts] at ends
        cases ends
  refine ⟨position + 1, ?_⟩
  rw [List.cons_append, List.nil_append, next_of_token (by decide), token]
  simp only [head, Bool.and_false, Bool.false_eq_true, if_false]
  rfl

/-! ### Quoted text -/

/-- Quoted text in front of its closing quote is read back character by character. -/
theorem stringBody_quoted (rest : List Char) (start : Nat) (text : List Char) (readable : text.all isReadable = true)
    (position : Nat) : ∃ position',
    stringBody '"' start position (text.flatMap Text.quotedChar ++ '"' :: rest) = (.ok text, ⟨rest, position'⟩) := by
  induction text generalizing position with
  | nil =>
    refine ⟨position + 1, ?_⟩
    cases rest <;> rfl
  | cons c text ih =>
    simp only [List.all_cons, Bool.and_eq_true] at readable
    obtain ⟨first, others⟩ := readable
    have escaped (letter : Char) (shown : Text.quotedChar c = ['\\', letter]) (known : escape? letter = some c) :
        ∃ position', stringBody '"' start position ((c :: text).flatMap Text.quotedChar ++ '"' :: rest) =
          (.ok (c :: text), ⟨rest, position'⟩) := by
      obtain ⟨position', read⟩ := ih others (position + 2)
      refine ⟨position', ?_⟩
      simp [shown, stringBody, known, read, Except.map]
    -- A character that stands for itself is only read where another one follows: the closing quote at the latest.
    have literal (shown : Text.quotedChar c = [c]) (notQuote : c ≠ '"') (notBackslash : c ≠ '\\') :
        ∃ position', stringBody '"' start position ((c :: text).flatMap Text.quotedChar ++ '"' :: rest) =
          (.ok (c :: text), ⟨rest, position'⟩) := by
      obtain ⟨position', read⟩ := ih others (position + 1)
      refine ⟨position', ?_⟩
      obtain ⟨d, behind, more⟩ : ∃ d behind, text.flatMap Text.quotedChar ++ '"' :: rest = d :: behind :=
        List.exists_cons_of_ne_nil (by simp)
      rw [more] at read
      simp [shown, more, stringBody, notQuote, notBackslash, read, Except.map]
    simp only [isReadable, List.contains_cons, List.contains_nil, Bool.or_false, Bool.or_eq_true, beq_iff_eq] at first
    rcases first with (rfl | rfl | rfl | rfl | rfl) | seen
    · exact escaped 't' rfl rfl
    · exact escaped 'r' rfl rfl
    · exact escaped 'n' rfl rfl
    · exact escaped '\\' rfl rfl
    · exact escaped '"' rfl rfl
    · by_cases quote : c = '"'
      · subst quote
        exact escaped '"' rfl rfl
      · by_cases backslash : c = '\\'
        · subst backslash
          exact escaped '\\' rfl rfl
        · refine literal ?_ quote backslash
          unfold Text.quotedChar
          split <;> first | contradiction | exact if_pos seen

theorem reads_quoted {text : String} (readable : text.toList.all isReadable = true) :
    Reads (Text.quotedChars text.toList) (.string text) rest := by
  intro position
  obtain ⟨position', read⟩ := stringBody_quoted rest position text.toList readable (position + 1)
  refine ⟨position', ?_⟩
  rw [Text.quotedChars, List.cons_append, List.cons_append, List.append_assoc, List.singleton_append,
    next_of_token (by decide), token]
  simp only [Char.reduceEq, decide_false, Bool.false_and, Bool.false_eq_true, if_false, read]
  simp [Except.map]

/-! ### Numbers -/

theorem Boundary.digit (boundary : Boundary rest) : ∀ c ∈ rest.head?, c.isDigit = false := by
  intro c first
  cases digit : c.isDigit with
  | false => rfl
  | true =>
    have ends := boundary.name c first
    rw [continuesName_of_isDigit digit] at ends
    cases ends

theorem next_of_digit {c : Char} (digit : c.isDigit = true) (text : List Char) (position : Nat) :
    (mk (c :: text) position).next =
      ((mk (c :: text) position).number.1.map some, (mk (c :: text) position).number.2) := by
  have plain : c ≠ '$' ∧ c ≠ '"' ∧ c ≠ '\'' := by
    refine ⟨?_, ?_, ?_⟩ <;> rintro rfl <;> cases digit
  have noName : startsName c = false := by
    cases starts : startsName c with
    | false => rfl
    | true =>
      rw [not_digit_of_startsName starts] at digit
      cases digit
  have read : (mk (c :: text) position).token c text = (mk (c :: text) position).number := by
    rw [token]
    simp only [plain, decide_false, Bool.false_and, Bool.or_false, Bool.false_eq_true, if_false, noName, digit,
      if_true]
  rw [next_of_token (not_blank_of_isDigit digit), read]

section
variable {whole fraction : List Char} (digits : ∀ c ∈ whole, c.isDigit = true) (boundary : Boundary rest)
include digits boundary

theorem numberParts_whole : numberParts (whole ++ rest) = (whole, none) := by
  unfold numberParts
  rw [takeWhile_append digits boundary.digit, dropWhile_append digits boundary.digit]
  dsimp only
  split
  · rename_i behind
    cases behind with
    | nil => rfl
    | cons c behind => simp [boundary.point c behind rfl]
  · rfl

theorem numberParts_point (places : ∀ c ∈ fraction, c.isDigit = true) (some : fraction ≠ []) :
    numberParts (whole ++ '.' :: (fraction ++ rest)) = (whole, .some fraction) := by
  have ends : ∀ c ∈ ('.' :: (fraction ++ rest)).head?, c.isDigit = false := by
    rintro _ ⟨⟩
    rfl
  have more : (fraction ++ rest).head?.any Char.isDigit = true := by
    obtain ⟨c, behind, rfl⟩ := List.exists_cons_of_ne_nil some
    simpa using places c (by simp)
  unfold numberParts
  rw [takeWhile_append digits ends, dropWhile_append digits ends]
  simp only [more, if_true, takeWhile_append places boundary.digit]

/-- Digits are read as the integer they write, if it fits. -/
theorem reads_integer (some : whole ≠ []) (fits : digitsValue whole < 2 ^ 63) :
    Reads whole (.integer (Int64.ofNat (digitsValue whole))) rest := by
  intro position
  have parts := numberParts_whole digits boundary
  obtain ⟨c, behind, rfl⟩ := List.exists_cons_of_ne_nil some
  refine ⟨position + (c :: behind).length, ?_⟩
  rw [List.cons_append, next_of_digit (digits c (by simp)), ← List.cons_append, number, parts]
  simp only [fits, if_true, skip_append]
  rfl

/-- Digits with a point between them are read as the float nearest to them. -/
theorem reads_float (some : whole ≠ []) (places : ∀ c ∈ fraction, c.isDigit = true) (more : fraction ≠ []) :
    Reads (whole ++ '.' :: fraction)
      (.float (Float.ofScientific (digitsValue (whole ++ fraction)) true fraction.length)) rest := by
  intro position
  have parts := numberParts_point digits boundary places more
  obtain ⟨c, behind, rfl⟩ := List.exists_cons_of_ne_nil some
  refine ⟨position + (c :: behind ++ '.' :: fraction).length, ?_⟩
  have length : (c :: behind).length + 1 + fraction.length = (c :: behind ++ '.' :: fraction).length := by
    simp only [List.length_append, List.length_cons]
    omega
  have joined : c :: behind ++ '.' :: fraction ++ rest = c :: behind ++ '.' :: (fraction ++ rest) := by simp
  rw [joined, List.cons_append, next_of_digit (digits c (by simp)), ← List.cons_append, number, parts]
  dsimp only
  rw [length, ← joined, skip_append]
  rfl

end

/-- An integer that has no sign is read back. -/
theorem reads_toString {n : Int64} (positive : 0 ≤ n.toInt) (boundary : Boundary rest) :
    Reads (toString n.toInt).toList (.integer n) rest := by
  obtain ⟨k, value⟩ := Int.eq_ofNat_of_zero_le positive
  have written : (toString n.toInt).toList = Nat.toDigits 10 k := by
    rw [value]
    exact Nat.toList_repr
  have same : digitsValue (Nat.toDigits 10 k) = k := Nat.ofDigitChars_ten_toDigits
  have fits : k < 2 ^ 63 := by
    have := n.toInt_lt
    omega
  have back : Int64.ofNat k = n := by
    rw [← Int64.ofInt_eq_ofNat, ← value, Int64.ofInt_toInt]
  have read : Reads (Nat.toDigits 10 k) _ rest := reads_integer
    (fun c known => Nat.isDigit_of_mem_toDigits (by decide) (by decide) known) boundary Nat.toDigits_ne_nil
    (by rwa [same])
  rwa [same, back, ← written] at read

end

end Lexer

/-! ### The tokens of a text -/

/-- Whether the lexer takes tokens from a text up to its end. -/
def Lexes (text : List Char) (ts : List Token) : Prop :=
  ∀ position, TokenStream.ofLexer ⟨text, position⟩ = .ofTokens ts

section
variable {text rest : List Char} {t : Token} {ts : List Token}

theorem ofLexer_of_none {l : Lexer} (ended : l.next.1 = .ok none) : TokenStream.ofLexer l = .done := by
  rw [TokenStream.ofLexer]
  split <;> rename_i found
  · rfl
  · rw [ended] at found
    cases found
  · rw [ended] at found
    cases found

theorem ofLexer_of_some {l l' : Lexer} (read : l.next = (.ok (some t), l')) :
    TokenStream.ofLexer l = .token t (TokenStream.ofLexer l') := by
  obtain rfl : l' = l.next.2 := by rw [read]
  have answer : l.next.1 = .ok (some t) := by rw [read]
  rw [TokenStream.ofLexer]
  split <;> rename_i found
  · rw [answer] at found
    cases found
  · rw [answer] at found
    cases found
    rfl
  · rw [answer] at found
    cases found

theorem tokens_of_error {l : Lexer} {e : LexError} (failed : l.next.1 = .error e) :
    (TokenStream.ofLexer l).tokens = .error e := by
  rw [TokenStream.ofLexer]
  split <;> rename_i found
  · rw [failed] at found
    cases found
  · rw [failed] at found
    cases found
  · rw [failed] at found
    cases found
    split <;> rfl

theorem Lexes.nil : Lexes [] [] := by
  intro position
  exact ofLexer_of_none rfl

theorem Lexes.cons (read : Lexer.Reads text t rest) (behind : Lexes rest ts) : Lexes (text ++ rest) (t :: ts) := by
  intro position
  obtain ⟨position', next⟩ := read position
  rw [ofLexer_of_some next, behind position', TokenStream.ofTokens]

theorem Lexes.white {b : Char} (blank : Unicode.isBlank b = true) (behind : Lexes rest ts) :
    Lexes (b :: rest) ts := by
  intro position
  have stream := behind (position + 1)
  have same := Lexer.next_blank blank rest position
  rcases found : (Lexer.mk rest (position + 1)).next with ⟨e | _ | t, l⟩
  · have failed := tokens_of_error (l := ⟨rest, position + 1⟩) (congrArg Prod.fst found)
    rw [stream, TokenStream.tokens_ofTokens] at failed
    cases failed
  · rw [← stream, ofLexer_of_none (congrArg Prod.fst found), ofLexer_of_none (congrArg Prod.fst (same.trans found))]
  · rw [← stream, ofLexer_of_some found, ofLexer_of_some (same.trans found)]

theorem Lexes.blank (behind : Lexes rest ts) : Lexes (' ' :: rest) ts :=
  behind.white (by decide)

/-- A text that is read to its end is tokenized so. -/
theorem Lexes.tokenize {text : String} (lexed : Lexes text.toList ts) : tokenize text = .ok ts := by
  rw [DocChain.tokenize, TokenStream.ofText, Lexer.ofText, lexed 0, TokenStream.tokens_ofTokens]

end

end DocChain
