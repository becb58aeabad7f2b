import DocChain.Token
import DocChain.Unicode.Alphabetic
import DocChain.Unicode.Blank
import DocChain.Unicode.Numeric

/-!
# The lexer

`Lexer.next` reads one token and says where it stopped, also after an error. Positions count
characters. `rest_length_lt_of_next` says that every token takes at least one character, and
`rest_length_le_next` that no reading gives characters back.
-/

namespace DocChain

inductive LexError where
  | unexpectedChar (ch : Char) (position : Nat)
  /-- The position is that of the opening quote. -/
  | unterminatedString (position : Nat)
  | invalidEscape (ch : Char) (position : Nat)
  /-- The position is that of the first digit. -/
  | invalidNumber (literal : String) (position : Nat)
  | loneEquals (position : Nat)
deriving DecidableEq

def LexError.message : LexError → String
  | .unexpectedChar ch p =>
    "unexpected character '" ++ ch.toString ++ "' at position " ++ toString p
  | .unterminatedString p => "unterminated string starting at position " ++ toString p
  | .invalidEscape ch p =>
    "invalid escape sequence \\" ++ ch.toString ++ " at position " ++ toString p
  | .invalidNumber literal p =>
    "invalid number literal '" ++ literal ++ "' at position " ++ toString p
  | .loneEquals p =>
    "unexpected '=' at position " ++ toString p ++ " (did you mean '==' or '=>'?)"

/-- The unread characters and the number of those already read. -/
structure Lexer where
  rest : List Char
  position : Nat
deriving DecidableEq

namespace Lexer

def ofText (text : String) : Lexer :=
  ⟨text.toList, 0⟩

def skip (l : Lexer) (n : Nat) : Lexer :=
  ⟨l.rest.drop n, l.position + n⟩

def skipBlank (l : Lexer) : Lexer :=
  l.skip (l.rest.takeWhile Unicode.isBlank).length

/-! ### Names -/

def startsName (c : Char) : Bool :=
  Unicode.isAlphabetic c || c = '_'

def continuesName (c : Char) : Bool :=
  Unicode.isAlphabetic c || Unicode.isNumeric c || c = '_'

def word (name : List Char) : Token :=
  match String.ofList name with
  | "and" => .and
  | "or" => .or
  | "true" => .boolean true
  | "false" => .boolean false
  | "null" => .null
  | "absent" => .absent
  | name => .identifier name

/-! ### Numbers -/

def digitsValue (digits : List Char) : Nat :=
  digits.foldl (fun value digit => 10 * value + (digit.toNat - '0'.toNat)) 0

/-- The digits at the head of a text and, where a point with a digit behind it follows, the digits
behind the point. -/
def numberParts (text : List Char) : List Char × Option (List Char) :=
  let whole := text.takeWhile Char.isDigit
  match text.dropWhile Char.isDigit with
  | '.' :: behind =>
    if behind.head?.any Char.isDigit then (whole, some (behind.takeWhile Char.isDigit))
    else (whole, none)
  | _ => (whole, none)

/-- Reads a number. Whole numbers have to fit the signed range of 64 bits. -/
def number (l : Lexer) : Except LexError Token × Lexer :=
  match numberParts l.rest with
  | (whole, some fraction) =>
    (.ok (.float (Float.ofScientific (digitsValue (whole ++ fraction)) true fraction.length)),
      l.skip (whole.length + 1 + fraction.length))
  | (whole, none) =>
    (if digitsValue whole < 2 ^ 63 then .ok (.integer (Int64.ofNat (digitsValue whole)))
      else .error (.invalidNumber (String.ofList whole) l.position),
      l.skip whole.length)

/-! ### Strings -/

/-- The character that a letter behind a backslash stands for. -/
def escape? : Char → Option Char
  | 'n' => some '\n'
  | 't' => some '\t'
  | 'r' => some '\r'
  | '"' => some '"'
  | '\'' => some '\''
  | '\\' => some '\\'
  | _ => none

/-- Reads the characters of a string up to its closing quote; `start` is the place of the opening
one. After an invalid escape the lexer stands on the character behind the backslash. -/
def stringBody (quote : Char) (start : Nat) :
    Nat → List Char → Except LexError (List Char) × Lexer
  | position, [] => (.error (.unterminatedString start), ⟨[], position⟩)
  | position, [c] =>
    if c = quote then (.ok [], ⟨[], position + 1⟩)
    else (.error (.unterminatedString start), ⟨[], position + 1⟩)
  | position, c :: d :: rest =>
    if c = quote then (.ok [], ⟨d :: rest, position + 1⟩)
    else if c = '\\' then
      match escape? d with
      | none => (.error (.invalidEscape d (position + 1)), ⟨d :: rest, position + 1⟩)
      | some e =>
        let (body, l) := stringBody quote start (position + 2) rest
        (body.map (e :: ·), l)
    else
      let (body, l) := stringBody quote start (position + 1) (d :: rest)
      (body.map (c :: ·), l)

/-! ### Tokens -/

/-- The tokens of fixed form, longer ones before those they begin with. -/
def symbols : List (List Char × Token) :=
  [(['=', '='], .equal), (['=', '>'], .arrow), (['!', '='], .notEqual), (['>', '='], .greaterEqual),
   (['<', '='], .lessEqual), (['>'], .greater), (['<'], .less), (['$'], .dollar), (['@'], .atSign),
   (['.'], .dot), ([','], .comma), ([':'], .colon), (['?'], .question), (['+'], .plus),
   (['-'], .minus), (['*'], .star), (['/'], .slash), (['%'], .percent), (['('], .leftParen),
   ([')'], .rightParen), (['['], .leftBracket), ([']'], .rightBracket), (['{'], .leftBrace),
   (['}'], .rightBrace)]

def symbol (l : Lexer) (c : Char) : Except LexError Token × Lexer :=
  match symbols.find? (fun s => s.1.isPrefixOf l.rest) with
  | some (form, token) => (.ok token, l.skip form.length)
  | none => (.error (if c = '=' then .loneEquals l.position else .unexpectedChar c l.position), l)

/-- Reads the token whose first character is `c`, with `rest` behind it. -/
def token (l : Lexer) (c : Char) (rest : List Char) : Except LexError Token × Lexer :=
  if c = '$' && rest.head?.any startsName then
    let name := rest.takeWhile continuesName
    (.ok (.collection (String.ofList name)), l.skip (1 + name.length))
  else if c = '"' || c = '\'' then
    let (body, l) := stringBody c l.position (l.position + 1) rest
    (body.map (fun s => .string (String.ofList s)), l)
  else if startsName c then
    let name := l.rest.takeWhile continuesName
    (.ok (word name), l.skip name.length)
  else if c.isDigit then l.number
  else l.symbol c

/-- Reads the next token, or nothing at the end of the text. -/
def next (l : Lexer) : Except LexError (Option Token) × Lexer :=
  match l.skipBlank.rest with
  | [] => (.ok none, l.skipBlank)
  | c :: rest =>
    let (token, l) := l.skipBlank.token c rest
    (token.map some, l)

/-! ### Every token takes a character -/

theorem length_skip (l : Lexer) (n : Nat) : (l.skip n).rest.length = l.rest.length - n := by
  simp [skip]

theorem length_stringBody (quote : Char) (start position : Nat) (text : List Char) :
    (stringBody quote start position text).2.rest.length ≤ text.length := by
  fun_induction stringBody quote start position text <;> simp_all <;> omega

theorem continuesName_of_startsName {c : Char} (h : startsName c = true) :
    continuesName c = true := by
  simp only [startsName, continuesName, Bool.or_eq_true] at h ⊢
  rcases h with h | h
  · exact .inl (.inl h)
  · exact .inr h

theorem length_number_lt (l : Lexer) {c : Char} {rest : List Char} (h : l.rest = c :: rest)
    (hc : c.isDigit = true) : l.number.2.rest.length < l.rest.length := by
  have whole : 0 < (l.rest.takeWhile Char.isDigit).length := by simp [h, hc]
  have positive : 0 < l.rest.length := by simp [h]
  unfold number numberParts
  split <;> rename_i heq <;> simp only [length_skip] <;> split at heq <;> try split at heq
  all_goals
    simp only [Prod.mk.injEq] at heq
    rw [← heq.1]
    omega

theorem length_symbol_lt (l : Lexer) {c : Char} {rest : List Char} (h : l.rest = c :: rest)
    {t : Token} (ht : (l.symbol c).1 = .ok t) : (l.symbol c).2.rest.length < l.rest.length := by
  have positive : 0 < l.rest.length := by simp [h]
  unfold symbol at ht ⊢
  split
  · rename_i form token found
    have hmem := List.mem_of_find?_eq_some found
    have hform : 0 < form.length := by
      simp only [symbols, List.mem_cons, Prod.mk.injEq, List.not_mem_nil, or_false] at hmem
      rcases hmem with h | h | h | h | h | h | h | h | h | h | h | h | h | h | h | h | h | h | h |
        h | h | h | h | h <;> simp [h.1]
    rw [length_skip]
    omega
  · rename_i found
    rw [found] at ht
    simp at ht

theorem length_symbol_le (l : Lexer) (c : Char) :
    (l.symbol c).2.rest.length ≤ l.rest.length := by
  unfold symbol
  split
  · simp [length_skip]
  · exact Nat.le_refl _

theorem length_token_lt (l : Lexer) {c : Char} {rest : List Char} (h : l.rest = c :: rest)
    {t : Token} (ht : (l.token c rest).1 = .ok t) :
    (l.token c rest).2.rest.length < l.rest.length := by
  have hlen : l.rest.length = rest.length + 1 := by simp [h]
  unfold token at ht ⊢
  split
  · simp only [length_skip]
    omega
  · split
    · simp only
      have := length_stringBody c l.position (l.position + 1) rest
      omega
    · split
      · rename_i hc
        have : 0 < (l.rest.takeWhile continuesName).length := by
          simp [h, continuesName_of_startsName hc]
        simp only [length_skip]
        omega
      · split
        · exact length_number_lt l h ‹_›
        · rename_i h₁ h₂ h₃ h₄
          simp only [h₁, h₂, h₃, h₄] at ht
          exact length_symbol_lt l h ht

theorem length_token_le (l : Lexer) {c : Char} {rest : List Char} (h : l.rest = c :: rest) :
    (l.token c rest).2.rest.length ≤ l.rest.length := by
  have hlen : l.rest.length = rest.length + 1 := by simp [h]
  unfold token
  split
  · simp [length_skip]
  · split
    · simp only
      have := length_stringBody c l.position (l.position + 1) rest
      omega
    · split
      · simp [length_skip]
      · split
        · exact Nat.le_of_lt (length_number_lt l h ‹_›)
        · exact length_symbol_le l c

theorem length_skipBlank_le (l : Lexer) : l.skipBlank.rest.length ≤ l.rest.length := by
  simp [skipBlank, length_skip]

theorem rest_length_lt_of_next {l : Lexer} {t : Token} (h : l.next.1 = .ok (some t)) :
    l.next.2.rest.length < l.rest.length := by
  have hb := length_skipBlank_le l
  unfold next at h ⊢
  split
  · rename_i heq
    rw [heq] at h
    simp at h
  · rename_i c rest heq
    rw [heq] at h
    simp only at h ⊢
    cases ht : (l.skipBlank.token c rest).1 with
    | error e => rw [ht] at h; simp [Except.map] at h
    | ok t' =>
      have := length_token_lt l.skipBlank heq ht
      omega

theorem rest_length_le_next (l : Lexer) : l.next.2.rest.length ≤ l.rest.length := by
  have hb := length_skipBlank_le l
  unfold next
  split
  · exact hb
  · have := length_token_le l.skipBlank ‹_›
    simp only
    omega

end Lexer

end DocChain
