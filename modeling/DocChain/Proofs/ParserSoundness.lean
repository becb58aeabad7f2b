import DocChain.Proofs.Draft
import DocChain.Proofs.Grammar

/-!
# What the parser accepts is derived

`Reads` follows a parser from its end: if the tokens are known where it stops, they are known where it
started, and what lies between is what it denotes. A parser that has taken its look-ahead stands at no
place in the text, so the steps around `take` are read as one.
-/

namespace DocChain

open Grammar

/-! ### States of the parser -/

namespace TokenStream

/-- A stream without errors. -/
def ofTokens : List Token → TokenStream
  | [] => .done
  | t :: ts => .token t (ofTokens ts)

theorem tokens_ofTokens (ts : List Token) : (ofTokens ts).tokens = .ok ts := by
  induction ts with
  | nil => rfl
  | cons t ts ih =>
    rw [ofTokens, tokens, ih]
    rfl

theorem length_ofTokens (ts : List Token) : (ofTokens ts).length = ts.length := by
  induction ts with
  | nil => rfl
  | cons t ts ih => simp [ofTokens, length, ih]

theorem eq_ofTokens {stream : TokenStream} {ts : List Token} (read : stream.tokens = .ok ts) :
    stream = ofTokens ts := by
  induction stream generalizing ts with
  | done =>
    cases read
    rfl
  | token t rest ih =>
    rw [tokens] at read
    cases found : rest.tokens with
    | error e =>
      rw [found] at read
      cases read
    | ok more =>
      rw [found] at read
      cases read
      rw [ofTokens, ← ih found]
  | fault => cases read
  | stuck => cases read

end TokenStream

namespace ParserState

/-- The state before some tokens, the last ones of a text. -/
def ofTokens (ts : List Token) : ParserState :=
  ⟨ts.head?, .ofTokens ts.tail⟩

/-- Whether an empty look-ahead means the end of the text. -/
def Faithful (s : ParserState) : Prop :=
  s.current = none → s.upcoming = .done

theorem eq_ofTokens_nil {s : ParserState} (faithful : s.Faithful) (none : s.current = none) :
    s = ofTokens [] := by
  obtain ⟨current, upcoming⟩ := s
  obtain rfl : current = .none := none
  obtain rfl : upcoming = .done := faithful rfl
  rfl

end ParserState

namespace Parser

variable {α β : Type}

theorem run_bind_ok {p : Parser α} {f : α → Parser β} {b : β} {s s'' : ParserState} :
    (p >>= f) s = .ok b s'' ↔ ∃ a s', p s = .ok a s' ∧ f a s' = .ok b s'' := by
  change EStateM.bind p f s = _ ↔ _
  unfold EStateM.bind
  cases p s with
  | ok a s' =>
    constructor
    · intro ran
      exact ⟨a, s', rfl, ran⟩
    · rintro ⟨_, _, ⟨⟩, ran⟩
      exact ran
  | error e s' => simp

/-- What `advance` does depends on the stream alone. -/
theorem advance_of_taken {s s' : ParserState} {c : Option Token}
    (read : advance { s with current := c } = .ok () s') : advance s = .ok () s' := by
  unfold advance at read ⊢
  dsimp only at read
  split at read
  · exact read
  · cases read

theorem cons_of_head? {t : Token} {ts : List Token} (first : ts.head? = some t) : ts = t :: ts.tail := by
  cases ts with
  | nil => cases first
  | cons t' ts =>
    cases first
    rfl

/-! ### Choices by the look-ahead -/

/-- Takes the look-ahead for an answer, or goes on with it in hand. -/
def pick (f : Token → Option α) (otherwise : Option Token → Parser α) : Parser α := do
  let t ← take
  match t.bind f with
  | some a => do advance; return a
  | none => otherwise t

def fails (what : Expectation) (found : Option Token) : Parser α :=
  throw (.expected what found)

def identifier? : Token → Option String
  | .identifier name => some name
  | _ => none

theorem name_eq_pick (what : Expectation) : name what = pick identifier? (fails what) := by
  unfold name pick
  refine congrArg _ (funext fun t => ?_)
  cases t with
  | none => rfl
  | some t => cases t <;> rfl

theorem pairKey_eq_pick :
    pairKey = (do let key ← pick name? (fails .objectKey); expect (some .colon); return key) := by
  unfold pairKey pick
  rw [bind_assoc]
  refine congrArg _ (funext fun t => ?_)
  cases t with
  | none => rfl
  | some t =>
    cases t with
    | string | identifier => simp [name?]
    | _ => rfl

theorem accessKey_eq_pick (expression : Parser Expr) : accessKey expression =
    pick (fun t => (name? t).map Expr.key) fun found => putBack found >>= fun _ => expression := by
  unfold accessKey pick
  refine congrArg _ (funext fun t => ?_)
  cases t with
  | none => rfl
  | some t => cases t <;> rfl

/-! ### Reading backwards -/

/-- What a parser has read when it succeeds, as a relation between the tokens before, the result and the
tokens behind. -/
def Reads (p : Parser α) (Q : List Token → α → List Token → Prop) : Prop :=
  ∀ s a s', s.Faithful → p s = .ok a s' →
    s'.Faithful ∧ ∀ rest, s' = .ofTokens rest → ∃ ts, s = .ofTokens ts ∧ Q ts a rest

namespace Reads

variable {p : Parser α} {f : α → Parser β} {Q Q' : List Token → α → List Token → Prop}

theorem imp (reads : Reads p Q) (weaker : ∀ ts a rest, Q ts a rest → Q' ts a rest) : Reads p Q' := by
  intro s a s' faithful ran
  obtain ⟨faithful', back⟩ := reads s a s' faithful ran
  refine ⟨faithful', fun rest same => ?_⟩
  obtain ⟨ts, start, holds⟩ := back rest same
  exact ⟨ts, start, weaker ts a rest holds⟩

theorem pure (a : α) : Reads (pure a) fun ts b rest => b = a ∧ rest = ts := by
  rintro s b s' faithful ⟨⟩
  exact ⟨faithful, fun rest same => ⟨rest, same, rfl, rfl⟩⟩

theorem throw (e : ParseError) : Reads (throw e : Parser α) Q := by
  rintro s a s' _ ⟨⟩

theorem bind {R : α → List Token → β → List Token → Prop} (first : Reads p Q)
    (next : ∀ a, Reads (f a) (R a)) :
    Reads (p >>= f) fun ts b rest => ∃ a mid, Q ts a mid ∧ R a mid b rest := by
  intro s b s'' faithful ran
  obtain ⟨a, s', ranFirst, ranNext⟩ := run_bind_ok.mp ran
  obtain ⟨faithful', backFirst⟩ := first s a s' faithful ranFirst
  obtain ⟨faithful'', backNext⟩ := next a s' b s'' faithful' ranNext
  refine ⟨faithful'', fun rest same => ?_⟩
  obtain ⟨mid, middle, later⟩ := backNext rest same
  obtain ⟨ts, start, earlier⟩ := backFirst mid middle
  exact ⟨ts, start, a, mid, earlier, later⟩

theorem peek : Reads peek fun ts found rest => found = ts.head? ∧ rest = ts := by
  rintro s found s' faithful ⟨⟩
  refine ⟨faithful, fun rest same => ⟨rest, same, ?_, rfl⟩⟩
  rw [same]
  rfl

theorem check (t : Token) : Reads (check t) fun ts found rest => (found = true ↔ ts.head? = some t) ∧ rest = ts := by
  refine (peek.bind fun _ => pure _).imp ?_
  rintro ts found rest ⟨_, mid, ⟨rfl, rfl⟩, rfl, rfl⟩
  exact ⟨by simp, rfl⟩

/-- A choice by the look-ahead. -/
theorem choose (t : Token) {yes no : Parser α} {R S : List Token → α → List Token → Prop} (first : Reads yes R)
    (second : Reads no S) : Reads (do if ← Parser.check t then yes else no) fun ts a rest =>
      (ts.head? = some t ∧ R ts a rest) ∨ (ts.head? ≠ some t ∧ S ts a rest) := by
  refine ((check t).bind (R := fun found ts a rest =>
    (found = true ∧ R ts a rest) ∨ (found = false ∧ S ts a rest)) fun found => ?_).imp ?_
  · cases found with
    | true => exact first.imp fun _ _ _ holds => .inl ⟨rfl, holds⟩
    | false => exact second.imp fun _ _ _ holds => .inr ⟨rfl, holds⟩
  · rintro ts a rest ⟨found, _, ⟨there, rfl⟩, ⟨rfl, holds⟩ | ⟨rfl, holds⟩⟩
    · exact .inl ⟨there.mp rfl, holds⟩
    · exact .inr ⟨fun head => absurd (there.mpr head) Bool.false_ne_true, holds⟩

theorem advance : Reads advance fun ts _ rest => rest = ts.tail := by
  intro s _ s' faithful ran
  obtain ⟨current, upcoming⟩ := s
  unfold Parser.advance at ran
  dsimp only at ran
  cases upcoming with
  | done =>
    cases ran
    refine ⟨fun _ => rfl, fun rest same => ?_⟩
    cases rest with
    | nil =>
      cases current with
      | none => exact ⟨[], rfl, rfl⟩
      | some t => exact ⟨[t], rfl, rfl⟩
    | cons t rest => cases same
  | token t behind =>
    cases ran
    refine ⟨fun missing => (by cases missing), fun rest same => ?_⟩
    cases rest with
    | nil => cases same
    | cons t' rest =>
      cases same
      cases current with
      | none => cases faithful rfl
      | some first => exact ⟨first :: t :: rest, rfl, rfl⟩
  | fault => cases ran
  | stuck => cases ran

/-- Moving over a token that is there, or over the end. -/
theorem expect (token : Option Token) :
    Reads (expect token) fun ts _ rest => ts.head? = token ∧ rest = ts.tail := by
  unfold Parser.expect
  refine (peek.bind (R := fun found ts _ rest => found = token ∧ rest = ts.tail) fun found => ?_).imp ?_
  · split
    · rename_i same
      exact advance.imp fun ts _ rest behind => ⟨same, behind⟩
    · exact throw _
  · rintro ts _ rest ⟨found, mid, ⟨rfl, rfl⟩, same, behind⟩
    exact ⟨same, behind⟩

/-- Taking the look-ahead and going on is going on from where it is. -/
theorem taken {k p : Option Token → Parser α} {R : Option Token → List Token → α → List Token → Prop}
    (again : ∀ t s a s', s.current = t → k t { s with current := none } = .ok a s' → p t s = .ok a s')
    (each : ∀ t, Reads (p t) (R t)) : Reads (take >>= k) fun ts a rest => R ts.head? ts a rest := by
  intro s a s' faithful ran
  obtain ⟨_, _, ⟨⟩, ran⟩ := run_bind_ok.mp ran
  obtain ⟨faithful', back⟩ := each s.current s a s' faithful (again _ s a s' rfl ran)
  refine ⟨faithful', fun rest same => ?_⟩
  obtain ⟨ts, start, holds⟩ := back rest same
  refine ⟨ts, start, ?_⟩
  rw [start] at holds
  exact holds

theorem again_advance {g : Unit → Parser α} {s s' : ParserState} {c : Option Token} {a : α}
    (ran : (Parser.advance >>= g) { s with current := c } = .ok a s') : (Parser.advance >>= g) s = .ok a s' := by
  obtain ⟨_, next, advanced, ran⟩ := run_bind_ok.mp ran
  exact run_bind_ok.mpr ⟨(), next, advance_of_taken advanced, ran⟩

/-- Moving over one token and going on behind it. -/
theorem past {g : Unit → Parser α} {R : List Token → α → List Token → Prop} (behind : Reads (g ()) R) :
    Reads (Parser.advance >>= g) fun ts a rest => R ts.tail a rest := by
  refine (advance.bind fun _ => behind).imp ?_
  rintro ts a rest ⟨_, mid, rfl, holds⟩
  exact holds

/-- Taking a token that is an answer. -/
theorem past_pure (a : α) :
    Reads (Parser.advance >>= fun _ => Pure.pure a) fun ts b rest => b = a ∧ rest = ts.tail :=
  (past (pure a)).imp fun _ _ _ holds => holds

theorem iterate {step : α → Parser (Option α)} {R : α → List Token → Option α → List Token → Prop}
    {P : α → List Token → α → List Token → Prop} (each : ∀ a, Reads (step a) (R a))
    (last : ∀ a ts rest, R a ts none rest → P a ts a rest)
    (next : ∀ a a' b ts mid rest, R a ts (some a') mid → P a' mid b rest → P a ts b rest) (bound : Nat) (a : α) :
    Reads (iterate step bound a) (P a) := by
  induction bound generalizing a with
  | zero =>
    refine (peek.bind fun _ => throw (Q := fun _ _ _ => False) _).imp ?_
    rintro ts b rest ⟨_, _, _, impossible⟩
    exact impossible.elim
  | succ bound ih =>
    unfold Parser.iterate
    refine ((each a).bind (R := fun found ts b rest =>
      found.elim (b = a ∧ rest = ts) fun a' => P a' ts b rest) fun found => ?_).imp ?_
    · cases found with
      | none => exact pure a
      | some a' => exact ih a'
    · rintro ts b rest ⟨found, mid, stepped, later⟩
      cases found with
      | none =>
        obtain ⟨rfl, rfl⟩ := later
        exact last b ts _ stepped
      | some a' => exact next a a' b ts mid rest stepped later

theorem pick {f : Token → Option α} {otherwise : Option Token → Parser α} {Q : List Token → α → List Token → Prop}
    (again : ∀ s a s', otherwise s.current { s with current := none } = .ok a s' → p s = .ok a s')
    (reads : Reads p Q) : Reads (pick f otherwise) fun ts a rest =>
      (∃ t, ts = t :: rest ∧ f t = some a) ∨ (ts.head?.bind f = none ∧ Q ts a rest) := by
  intro s a s' faithful ran
  obtain ⟨_, _, ⟨⟩, ran⟩ := run_bind_ok.mp ran
  cases picked : s.current.bind f with
  | some a' =>
    simp only [picked] at ran
    obtain ⟨faithful', back⟩ := past_pure a' s a s' faithful (again_advance ran)
    refine ⟨faithful', fun rest same => ?_⟩
    obtain ⟨ts, rfl, rfl, rfl⟩ := back rest same
    obtain ⟨t, first, read⟩ := Option.bind_eq_some_iff.mp picked
    exact ⟨ts, rfl, .inl ⟨t, cons_of_head? first, read⟩⟩
  | none =>
    simp only [picked] at ran
    obtain ⟨faithful', back⟩ := reads s a s' faithful (again s a s' ran)
    refine ⟨faithful', fun rest same => ?_⟩
    obtain ⟨ts, rfl, holds⟩ := back rest same
    exact ⟨ts, rfl, .inr ⟨picked, holds⟩⟩

theorem name (what : Expectation) : Reads (name what) fun ts found rest => ts = .identifier found :: rest := by
  rw [name_eq_pick]
  have fails : ∀ s a s', Parser.fails what s.current { s with current := none } = .ok a s' →
      (MonadExcept.throw (.unexpected none) : Parser String) s = .ok a s' := by
    rintro _ _ _ ⟨⟩
  refine (pick fails (throw (Q := fun _ _ _ => False) _)).imp ?_
  rintro ts found rest (⟨t, rfl, read⟩ | ⟨_, impossible⟩)
  · cases t with
    | identifier name =>
      cases read
      rfl
    | _ => cases read
  · exact impossible.elim

end Reads

/-! ### Phrases -/

/-- What is derived in front of the tokens behind. -/
def Denotes (φ : α → Phrase) (ts : List Token) (a : α) (rest : List Token) : Prop :=
  Derives Plain (φ a) ts rest

theorem reads_separator (close : Token) : Reads (separator close) fun ts _ rest =>
    (ts.head? = some close ∧ rest = ts) ∨ (ts.head? ≠ some close ∧ ts = .comma :: rest) := by
  refine (Reads.choose close (Reads.pure ()) (Reads.expect (some .comma))).imp ?_
  rintro ts _ rest (⟨closes, _, rfl⟩ | ⟨opens, comma, rfl⟩)
  · exact .inl ⟨closes, rfl⟩
  · exact .inr ⟨opens, cons_of_head? comma⟩

/-! ### Lists -/

/-- One more element with its separator, or nothing where the list closes. -/
def element (close : Token) (item : Parser α) (elements : List α) : Parser (Option (List α)) := do
  if ← check close then return none
  let a ← item
  separator close
  return some (elements ++ [a])

theorem pair_eq_element (expression : Parser Expr) :
    pair expression = element .rightBrace (do let key ← pairKey; let e ← expression; return (key, e)) := by
  funext ps
  simp [pair, element]

/-- Items with commas between them, up to a closing token. -/
inductive Separated (close : Token) (Item : List Token → α → List Token → Prop) :
    List Token → List α → List Token → Prop where
  | none (rest : List Token) : Separated close Item (close :: rest) [] (close :: rest)
  | last {a : α} {ts rest : List Token} (item : Item ts a (close :: rest)) :
      Separated close Item ts [a] (close :: rest)
  | more {a : α} {as : List α} {ts mid rest : List Token} (item : Item ts a (.comma :: mid))
      (others : Separated close Item mid as rest) : Separated close Item ts (a :: as) rest

theorem reads_element {item : Parser α} {Q : List Token → α → List Token → Prop} (reads : Reads item Q)
    (close : Token) (elements : List α) :
    Reads (element close item elements) fun ts found rest =>
      match found with
      | none => ts.head? = some close ∧ rest = ts
      | some elements' => ts.head? ≠ some close ∧ ∃ a mid, Q ts a mid ∧ elements' = elements ++ [a] ∧
          ((mid.head? = some close ∧ rest = mid) ∨ (mid.head? ≠ some close ∧ mid = .comma :: rest)) := by
  have another := reads.bind fun a => (reads_separator close).bind fun _ => Reads.pure (some (elements ++ [a]))
  refine (Reads.choose close (Reads.pure none) another).imp ?_
  rintro ts _ rest (⟨closes, rfl, rfl⟩ | ⟨opens, a, mid, holds, _, _, separated, rfl, rfl⟩)
  · exact ⟨closes, rfl⟩
  · exact ⟨opens, a, mid, holds, rfl, separated⟩

theorem reads_elements {item : Parser α} {Q : List Token → α → List Token → Prop} (reads : Reads item Q)
    (close : Token) (bound : Nat) :
    Reads (do let as ← iterate (element close item) bound []; expect (some close); return as)
      fun ts as rest => Separated close Q ts as (close :: rest) := by
  -- What the loop adds to the items that it has, unless the list closes at once.
  have loop := Reads.iterate (P := fun as ts as' rest =>
      (ts.head? = some close ∧ as' = as ∧ rest = ts) ∨
      (ts.head? ≠ some close ∧ ∃ more, as' = as ++ more ∧ rest.head? = some close ∧ Separated close Q ts more rest))
    (reads_element reads close) ?_ ?_ bound []
  · refine (loop.bind fun as => (Reads.expect (some close)).bind fun _ => Reads.pure as).imp ?_
    rintro ts _ rest ⟨as, mid, read, _, _, ⟨closes, rfl⟩, rfl, rfl⟩
    rcases read with ⟨first, rfl, rfl⟩ | ⟨_, as, rfl, _, separated⟩
    · rw [cons_of_head? first]
      exact .none _
    · rw [← cons_of_head? closes]
      exact separated
  · rintro as ts rest ⟨first, rfl⟩
    exact .inl ⟨first, rfl, rfl⟩
  · rintro as _ as' ts mid rest ⟨opened, a, behind, item, rfl, separated⟩ others
    refine .inr ⟨opened, ?_⟩
    rcases separated with ⟨closes, rfl⟩ | ⟨opens, rfl⟩
    · rcases others with ⟨_, rfl, rfl⟩ | ⟨opens, _⟩
      · refine ⟨[a], rfl, closes, ?_⟩
        rw [cons_of_head? closes] at item ⊢
        exact .last item
      · exact absurd closes opens
    · rcases others with ⟨closes, rfl, rfl⟩ | ⟨_, more, rfl, closes, later⟩
      · refine ⟨[a], rfl, closes, .more item ?_⟩
        rw [cons_of_head? closes]
        exact .none _
      · exact ⟨a :: more, by simp, closes, .more item later⟩

theorem reads_pairKey : Reads pairKey fun ts key rest => ∃ t, name? t = some key ∧ ts = t :: .colon :: rest := by
  rw [pairKey_eq_pick]
  have failing : ∀ s a s', fails .objectKey s.current { s with current := none } = .ok a s' →
      (throw (.unexpected none) : Parser String) s = .ok a s' := by
    rintro _ _ _ ⟨⟩
  have key := Reads.pick (f := name?) failing (Reads.throw (Q := fun _ _ _ => False) _)
  refine (key.bind fun key => (Reads.expect (some .colon)).bind fun _ => Reads.pure key).imp ?_
  rintro ts key rest ⟨_, mid, ⟨t, rfl, read⟩ | ⟨_, impossible⟩, _, _, ⟨first, rfl⟩, rfl, rfl⟩
  · exact ⟨t, read, by rw [← cons_of_head? first]⟩
  · exact impossible.elim

/-! ### Rules

Each of them says what a part of an operand is read from, over what is known of the expressions in it. -/

/-- Whether no suffix follows. -/
def Unsuffixed (rest : List Token) : Prop :=
  rest.head? ≠ some .leftBracket ∧ rest.head? ≠ some .dot

section
variable (E O : List Token → Expr → List Token → Prop)

/-- A pair of an object literal. -/
def PairRule (ts : List Token) (pair : String × Expr) (rest : List Token) : Prop :=
  ∃ t behind, name? t = some pair.1 ∧ ts = t :: .colon :: behind ∧ E behind pair.2 rest

inductive KeyRule : List Token → Expr → List Token → Prop where
  | name {t : Token} {name : String} (rest : List Token) (read : name? t = some name) :
      KeyRule (t :: rest) (.key name) rest
  | computed {e : Expr} {ts rest : List Token} (other : ts.head?.bind name? = none) (inside : E ts e rest) :
      KeyRule ts e rest

inductive PrimaryRule : List Token → Expr → List Token → Prop where
  | atom {t : Token} {e : Expr} (rest : List Token) (read : atom? t = some e) : PrimaryRule (t :: rest) e rest
  | binding (name : String) (rest : List Token) :
      PrimaryRule (.atSign :: .identifier name :: rest) (.binding name) rest
  | lambda {param : String} {body : Expr} {ts rest : List Token} (inside : E ts body rest) :
      PrimaryRule (.atSign :: .identifier param :: .arrow :: ts) (.lambda param body) rest
  | group {e : Expr} {ts rest : List Token} (inside : E ts e (.rightParen :: rest)) :
      PrimaryRule (.leftParen :: ts) e rest
  | negative {e : Expr} {ts rest : List Token} (operand : O ts e rest) :
      PrimaryRule (.minus :: ts) (.binary (.arithmetic .subtract) (.integer 0) e) rest
  | object {ps : List (String × Expr)} {ts rest : List Token}
      (inside : Separated .rightBrace (PairRule E) ts ps (.rightBrace :: rest)) :
      PrimaryRule (.leftBrace :: ts) (.object ps) rest
  | array {items : List Expr} {ts rest : List Token}
      (inside : Separated .rightBracket E ts items (.rightBracket :: rest)) :
      PrimaryRule (.leftBracket :: ts) (.array items) rest

/-- A suffix, by the operand that it makes of an object. -/
inductive SuffixRule (object : Expr) : List Token → Expr → List Token → Prop where
  | existence (rest : List Token) :
      SuffixRule object (.leftBracket :: .question :: .rightBracket :: rest) (.existence object) rest
  | access {key : Expr} {ts rest : List Token} (inside : KeyRule E ts key (.rightBracket :: rest)) :
      SuffixRule object (.leftBracket :: ts) (.access object key) rest
  | member (name : String) (rest : List Token) :
      SuffixRule object (.dot :: .identifier name :: rest) (.member object name) rest
  | call {name : String} {args : List Expr} {ts rest : List Token}
      (given : Separated .rightParen E ts args (.rightParen :: rest)) :
      SuffixRule object (.dot :: .identifier name :: .leftParen :: ts) (.call object name args) rest

end

section
variable {expression operand : Parser Expr} {E O : List Token → Expr → List Token → Prop}
  (reads : Reads expression E)
include reads

theorem reads_list (bound : Nat) (close : Token) :
    Reads (list expression bound close) fun ts items rest => Separated close E ts items (close :: rest) :=
  reads_elements reads close bound

theorem reads_pairs (bound : Nat) :
    Reads (pairs expression bound) fun ts ps rest =>
      Separated .rightBrace (PairRule E) ts ps (.rightBrace :: rest) := by
  have item : Reads (do let key ← pairKey; let e ← expression; return (key, e)) (PairRule E) := by
    refine (reads_pairKey.bind fun key => reads.bind fun e => Reads.pure (key, e)).imp ?_
    rintro ts _ rest ⟨key, mid, ⟨t, read, rfl⟩, e, _, inside, rfl, rfl⟩
    exact ⟨t, mid, read, rfl, inside⟩
  unfold pairs
  rw [pair_eq_element]
  exact reads_elements item .rightBrace bound

theorem reads_accessKey : Reads (accessKey expression) (KeyRule E) := by
  rw [accessKey_eq_pick]
  refine (Reads.pick (fun s a s' ran => ?_) reads).imp ?_
  · obtain ⟨_, _, ⟨⟩, ran⟩ := run_bind_ok.mp ran
    exact ran
  · rintro ts e rest (⟨t, rfl, read⟩ | ⟨unnamed, inside⟩)
    · obtain ⟨name, named, rfl⟩ := Option.map_eq_some_iff.mp read
      exact .name rest named
    · refine .computed ?_ inside
      cases first : ts.head? with
      | none => rfl
      | some t => simpa [first] using unnamed

theorem reads_bindingOrLambda :
    Reads (bindingOrLambda expression) fun ts e rest => PrimaryRule E O (.atSign :: ts) e rest := by
  unfold bindingOrLambda
  have body (param : String) : Reads (do advance; return Expr.lambda param (← expression)) fun ts e rest =>
      ∃ body, e = .lambda param body ∧ E ts.tail body rest := by
    refine (Reads.past (reads.bind fun body => Reads.pure (Expr.lambda param body))).imp ?_
    rintro ts _ rest ⟨body, _, inside, rfl, rfl⟩
    exact ⟨body, rfl, inside⟩
  refine ((Reads.name .bindingName).bind fun param =>
    Reads.choose .arrow (body param) (Reads.pure (Expr.binding param))).imp ?_
  rintro ts e rest ⟨param, mid, rfl, ⟨arrow, body, rfl, inside⟩ | ⟨_, rfl, rfl⟩⟩
  · rw [cons_of_head? arrow]
    exact .lambda inside
  · exact .binding param _

theorem reads_primary (readsOperand : Reads operand O) (bound : Nat) :
    Reads (take >>= primaryOf expression operand bound) (PrimaryRule E O) := by
  have after (t : Option Token) : Reads (primaryOf expression operand bound t) fun ts e rest =>
      ∃ first, t = some first ∧ PrimaryRule E O (first :: ts.tail) e rest := by
    have atom {t : Token} {e : Expr} (read : atom? t = some e) : Reads (do advance; return e) fun ts e rest =>
        ∃ first, some t = some first ∧ PrimaryRule E O (first :: ts.tail) e rest := by
      refine (Reads.past_pure e).imp ?_
      rintro ts _ rest ⟨rfl, rfl⟩
      exact ⟨t, rfl, .atom _ read⟩
    cases t with
    | none => exact Reads.throw _
    | some t =>
      cases t with
      | float | integer | string | boolean | null | absent | dollar | collection => exact atom rfl
      | atSign => exact (Reads.past (reads_bindingOrLambda reads)).imp fun _ _ _ rule => ⟨_, rfl, rule⟩
      | leftParen =>
        refine (Reads.past (reads.bind fun e => (Reads.expect (some .rightParen)).bind fun _ =>
          Reads.pure e)).imp ?_
        rintro ts _ rest ⟨e, _, inside, _, _, ⟨closes, rfl⟩, rfl, rfl⟩
        exact ⟨_, rfl, .group (cons_of_head? closes ▸ inside)⟩
      | minus =>
        refine (Reads.past (readsOperand.bind fun e =>
          Reads.pure (Expr.binary (.arithmetic .subtract) (.integer 0) e))).imp ?_
        rintro ts _ rest ⟨e, _, inside, rfl, rfl⟩
        exact ⟨_, rfl, .negative inside⟩
      | leftBrace =>
        refine (Reads.past ((reads_pairs reads bound).bind fun ps => Reads.pure (Expr.object ps))).imp ?_
        rintro ts _ rest ⟨ps, _, inside, rfl, rfl⟩
        exact ⟨_, rfl, .object inside⟩
      | leftBracket =>
        refine (Reads.past ((reads_list reads bound .rightBracket).bind fun items =>
          Reads.pure (Expr.array items))).imp ?_
        rintro ts _ rest ⟨items, _, inside, rfl, rfl⟩
        exact ⟨_, rfl, .array inside⟩
      | _ => exact Reads.throw _
  refine (Reads.taken (fun t s a s' _ ran => ?_) after).imp fun ts e rest read => ?_
  · cases t with
    | none => cases ran
    | some t => cases t <;> first | exact Reads.again_advance ran | cases ran
  · obtain ⟨first, present, rule⟩ := read
    rw [cons_of_head? present]
    exact rule

theorem reads_suffix (bound : Nat) (object : Expr) :
    Reads (suffix expression bound object) fun ts found rest =>
      match found with
      | none => rest = ts ∧ Unsuffixed ts
      | some object' => SuffixRule E object ts object' rest := by
  have existence : Reads (do advance; expect (some .rightBracket); return some (Expr.existence object))
      fun ts found rest => found = some (.existence object) ∧ ts.tail = .rightBracket :: rest := by
    refine (Reads.past ((Reads.expect (some .rightBracket)).bind fun _ => Reads.pure _)).imp ?_
    rintro ts _ rest ⟨_, _, ⟨closes, rfl⟩, rfl, rfl⟩
    exact ⟨rfl, cons_of_head? closes⟩
  have access : Reads (do
        let key ← accessKey expression
        expect (some .rightBracket)
        return some (Expr.access object key))
      fun ts found rest => ∃ key, found = some (.access object key) ∧ KeyRule E ts key (.rightBracket :: rest) := by
    refine ((reads_accessKey reads).bind fun key => (Reads.expect (some .rightBracket)).bind fun _ =>
      Reads.pure (some (Expr.access object key))).imp ?_
    rintro ts _ rest ⟨key, _, inside, _, _, ⟨closes, rfl⟩, rfl, rfl⟩
    exact ⟨key, rfl, cons_of_head? closes ▸ inside⟩
  have call (name : String) : Reads (do
        advance
        return some (Expr.call object name (← list expression bound .rightParen)))
      fun ts found rest => ∃ args, found = some (.call object name args) ∧
        Separated .rightParen E ts.tail args (.rightParen :: rest) := by
    refine (Reads.past ((reads_list reads bound .rightParen).bind fun args =>
      Reads.pure (some (Expr.call object name args)))).imp ?_
    rintro ts _ rest ⟨args, _, given, rfl, rfl⟩
    exact ⟨args, rfl, given⟩
  have bracket := Reads.advance.bind fun _ => Reads.choose .question existence access
  have dot := Reads.advance.bind fun _ => (Reads.name .memberName).bind fun name =>
    Reads.choose .leftParen (call name) (Reads.pure (some (Expr.member object name)))
  refine (Reads.choose .leftBracket bracket (Reads.choose .dot dot (Reads.pure none))).imp ?_
  rintro ts found rest (⟨opens, _, _, rfl, ⟨question, rfl, closes⟩ | ⟨_, key, rfl, inside⟩⟩ |
    ⟨other, ⟨dotted, _, _, rfl, name, _, named, ⟨paren, args, rfl, given⟩ | ⟨_, rfl, rfl⟩⟩ | ⟨undotted, rfl, rfl⟩⟩)
  · rw [cons_of_head? opens, cons_of_head? question, closes]
    exact .existence rest
  · rw [cons_of_head? opens]
    exact .access inside
  · rw [cons_of_head? dotted, named, cons_of_head? paren]
    exact .call given
  · rw [cons_of_head? dotted, named]
    exact .member name _
  · exact ⟨rfl, other, undotted⟩

end

/-! ### Operands of the grammar -/

/-- What is derived as far as suffixes go. -/
def Ends (ℓ : Level) (ts : List Token) (e : Expr) (rest : List Token) : Prop :=
  Denotes (.level ℓ) ts e rest ∧ Unsuffixed rest

section
variable {ts rest : List Token} {e : Expr}

theorem denotes_list {close : Token} {items : List Expr}
    (separated : Separated close (Ends .expression) ts items rest) : Denotes (.list close) ts items rest := by
  induction separated with
  | none => exact .noItem ..
  | last item => exact .lastItem item.1
  | more item _ others => exact .item item.1 others

theorem denotes_pairs {ps : List (String × Expr)}
    (separated : Separated .rightBrace (PairRule (Ends .expression)) ts ps rest) : Denotes .pairs ts ps rest := by
  induction separated with
  | none => exact .noPair _
  | last item =>
    obtain ⟨t, behind, read, rfl, value, _⟩ := item
    exact .lastPair read value
  | more item _ others =>
    obtain ⟨t, behind, read, rfl, value, _⟩ := item
    exact .pair read value others

theorem denotes_key (rule : KeyRule (Ends .expression) ts e rest) : Denotes .key ts e rest := by
  cases rule with
  | name _ read => exact .name rest read
  | computed other inside =>
    refine .computed (fun s first => ?_) inside.1
    rw [first] at other
    cases other

theorem denotes_primary (rule : PrimaryRule (Ends .expression) (Ends .operand) ts e rest) :
    Denotes .primary ts e rest ∨ Ends .operand ts e rest := by
  cases rule with
  | atom _ read => exact .inl (.atom rest read)
  | binding name => exact .inl (.binding name rest)
  | lambda inside => exact .inr ⟨.lambda _ trivial inside.1, inside.2⟩
  | group inside => exact .inl (.group inside.1)
  | negative operand => exact .inr ⟨.negative operand.1, operand.2⟩
  | object inside => exact .inl (.object (denotes_pairs inside))
  | array inside => exact .inl (.array (denotes_list inside))

/-- A suffix widens its object, for all that follows it. -/
theorem denotes_suffix {object object' : Expr} (rule : SuffixRule (Ends .expression) object ts object' rest) :
    ¬ Unsuffixed ts ∧
      ∀ e behind, Derives Plain (.suffixes object' e) rest behind → Derives Plain (.suffixes object e) ts behind := by
  cases rule with
  | existence => exact ⟨fun unsuffixed => unsuffixed.1 rfl, fun _ _ others => .existence others⟩
  | access inside => exact ⟨fun unsuffixed => unsuffixed.1 rfl, fun _ _ others => .access (denotes_key inside) others⟩
  | member => exact ⟨fun unsuffixed => unsuffixed.2 rfl, fun _ _ others => .member others⟩
  | call given => exact ⟨fun unsuffixed => unsuffixed.2 rfl, fun _ _ others => .call (denotes_list given) others⟩

end

/-! ### Operators -/

section
variable {operand : Parser Expr} {Q : List Token → Expr → List Token → Prop} (reads : Reads operand Q)
include reads

theorem reads_joined (op? : Token → Option BinaryOp) (left : Expr) :
    Reads (joined op? operand left) fun ts found rest =>
      match found with
      | none => rest = ts ∧ ts.head?.bind op? = none
      | some e => ∃ t op behind right, ts = t :: behind ∧ op? t = some op ∧ Q behind right rest ∧
          e = .binary op left right := by
  unfold joined
  refine (Reads.peek.bind (R := fun found ts e rest => e.elim (rest = ts ∧ found.bind op? = none) fun e =>
    ∃ t op right, found = some t ∧ op? t = some op ∧ Q ts.tail right rest ∧ e = .binary op left right)
    fun found => ?_).imp ?_
  · split
    · rename_i ends
      refine (Reads.pure none).imp ?_
      rintro ts _ rest ⟨rfl, rfl⟩
      exact ⟨rfl, ends⟩
    · rename_i op follows
      obtain ⟨t, rfl, read⟩ := Option.bind_eq_some_iff.mp follows
      refine (Reads.advance.bind fun _ => reads.bind fun right =>
        Reads.pure (some (Expr.binary op left right))).imp ?_
      rintro ts _ rest ⟨_, _, rfl, right, _, holds, rfl, rfl⟩
      exact ⟨t, op, right, rfl, read, holds, rfl⟩
  · rintro ts e rest ⟨found, mid, ⟨rfl, rfl⟩, read⟩
    cases e with
    | none => exact read
    | some e =>
      obtain ⟨t, op, right, first, read, holds, rfl⟩ := read
      exact ⟨t, op, _, right, cons_of_head? first, read, holds, rfl⟩

end

theorem reads_series {operand : Parser Expr} (s : Series) (reads : Reads operand (Ends s.item)) (bound : Nat) :
    Reads (leftAssociative s.op? operand bound) (Ends (.series s)) := by
  have loop := Reads.iterate (P := fun left ts e rest =>
    Derives Plain (.tail s left e) ts rest ∧ (Unsuffixed ts → Unsuffixed rest)) (reads_joined reads s.op?) ?_ ?_ bound
  · unfold leftAssociative
    refine (reads.bind loop).imp ?_
    rintro ts e rest ⟨first, mid, ⟨head, unsuffixed⟩, others, kept⟩
    exact ⟨.series head others, kept unsuffixed⟩
  · rintro left ts rest ⟨rfl, _⟩
    exact ⟨.done .., id⟩
  · rintro left _ e ts mid rest ⟨t, op, behind, right, rfl, read, ⟨denotes, unsuffixed⟩, rfl⟩ ⟨others, kept⟩
    exact ⟨.more read denotes others, fun _ => kept unsuffixed⟩

theorem reads_comparison {operand : Parser Expr} (reads : Reads operand (Ends (.series .sum))) :
    Reads (comparison operand) (Ends .comparison) := by
  unfold comparison
  refine (reads.bind fun left => (reads_joined reads comparisonOp? left).bind fun found =>
    Reads.pure (found.getD left)).imp ?_
  rintro ts _ rest ⟨left, mid, ⟨first, unsuffixed⟩, found, _, read, rfl, rfl⟩
  cases found with
  | none =>
    obtain ⟨rfl, _⟩ := read
    exact ⟨.alone first, unsuffixed⟩
  | some e =>
    obtain ⟨t, op, behind, right, rfl, read, ⟨second, unsuffixed⟩, rfl⟩ := read
    exact ⟨.compared first read second, unsuffixed⟩

theorem reads_levels {operand : Parser Expr} (reads : Reads operand (Ends .operand)) (bound : Nat) :
    Reads (levels operand bound) (Ends .expression) := by
  have product := reads_series .product reads bound
  have sum := reads_series .sum product bound
  have conjunction := reads_series .conjunction (reads_comparison sum) bound
  exact reads_series .disjunction conjunction bound

theorem reads_reject {Q : List Token → α → List Token → Prop} : Reads (reject : Parser α) Q := by
  refine (Reads.peek.bind fun _ => Reads.throw (Q := fun _ _ _ => False) _).imp ?_
  rintro _ _ _ ⟨_, _, _, impossible⟩
  exact impossible.elim

theorem reads_within (depth : Nat) :
    Reads (operandWithin depth) (Ends .operand) ∧ Reads (expressionWithin depth) (Ends .expression) := by
  induction depth with
  | zero => exact ⟨reads_reject, reads_reject⟩
  | succ depth ih =>
    obtain ⟨readsOperand, reads⟩ := ih
    refine ⟨?_, reads_levels readsOperand depth⟩
    have loop := Reads.iterate (P := fun object ts e rest =>
        Derives Plain (.suffixes object e) ts rest ∧ Unsuffixed rest ∧ (Unsuffixed ts → e = object ∧ rest = ts))
      (reads_suffix reads depth) ?_ ?_ depth
    · rw [operandWithin, ← bind_assoc]
      refine ((reads_primary reads readsOperand depth).bind loop).imp ?_
      rintro ts e rest ⟨object, mid, rule, others, ends, same⟩
      obtain denotes | ⟨denotes, unsuffixed⟩ := denotes_primary rule
      · exact ⟨.suffixed denotes others, ends⟩
      · obtain ⟨rfl, rfl⟩ := same unsuffixed
        exact ⟨denotes, ends⟩
    · rintro object ts rest ⟨rfl, ends⟩
      exact ⟨.bare .., ends, fun _ => ⟨rfl, rfl⟩⟩
    · rintro object object' e ts mid rest rule ⟨others, ends, _⟩
      obtain ⟨suffixed, widens⟩ := denotes_suffix rule
      exact ⟨widens e rest others, ends, fun unsuffixed => absurd unsuffixed suffixed⟩

end Parser

/-- A parsed text has tokens, and the expression is read from all of them. -/
theorem Expr.read_of_parse {Q : List Token → Expr → List Token → Prop}
    (reads : ∀ depth, Parser.Reads (Parser.expressionWithin depth) Q) {text : String} {e : Expr}
    (parsed : Expr.parse text = .ok e) : ∃ ts, tokenize text = .ok ts ∧ Q ts e [] := by
  obtain ⟨s, started, parsed⟩ := bind_eq_ok.mp parsed
  -- The parser starts before the first token of the stream.
  obtain ⟨faithful, stream⟩ : s.Faithful ∧ ∀ ts, s = .ofTokens ts → TokenStream.ofText text = .ofTokens ts := by
    unfold Parser.start at started
    cases found : TokenStream.ofText text with
    | done =>
      rw [found] at started
      cases started
      refine ⟨fun _ => rfl, fun ts same => ?_⟩
      cases ts with
      | nil => rfl
      | cons t ts => cases same
    | token t behind =>
      rw [found] at started
      cases started
      refine ⟨fun missing => (by cases missing), fun ts same => ?_⟩
      cases ts with
      | nil => cases same
      | cons t ts =>
        cases same
        rfl
    | fault | stuck =>
      rw [found] at started
      cases started
  cases ran : Parser.whole s with
  | error err s' =>
    rw [ran] at parsed
    cases parsed
  | ok found s' =>
    rw [ran] at parsed
    cases parsed
    obtain ⟨e', ended, read, ran⟩ := Parser.run_bind_ok.mp ran
    obtain ⟨_, _, expected, same⟩ := Parser.run_bind_ok.mp ran
    cases same
    obtain ⟨faithful', back⟩ := reads (2 * s.upcoming.length + 6) s e ended faithful read
    have last : ended.current = none := by
      obtain ⟨_, _, ⟨⟩, moved⟩ := Parser.run_bind_ok.mp expected
      split at moved
      · assumption
      · cases moved
    obtain ⟨ts, start, holds⟩ := back [] (ParserState.eq_ofTokens_nil faithful' last)
    refine ⟨ts, ?_, holds⟩
    rw [tokenize, stream ts start, TokenStream.tokens_ofTokens]

/-- The grammar derives what is parsed from all tokens of the text. -/
theorem Expr.derives_of_parse {text : String} {e : Expr} (parsed : Expr.parse text = .ok e) :
    ∃ ts, tokenize text = .ok ts ∧ Derives Plain (.level .expression e) ts [] := by
  obtain ⟨ts, lexed, denotes, _⟩ := read_of_parse (fun depth => (Parser.reads_within depth).2) parsed
  exact ⟨ts, lexed, denotes⟩

end DocChain
