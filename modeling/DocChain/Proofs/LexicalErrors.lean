import DocChain.Proofs.ParserSoundness

/-!
# Lexical errors of parsed texts

The parser asks for its tokens one at a time. Two runs over the same tokens do the same until they are all read,
whatever follows them: so a run that has not reached the first lexical error of its text does not depend on it,
and a run that has reached it ends with it. The runs are compared move by move, for all ways to build a parser.
-/

namespace DocChain

/-- A parser of a whole text, from before its first token. -/
def Parser.fromStart : Parser Expr := do
  advance
  whole

/-- What is left of a run when its state is forgotten. -/
def Parser.outcome {α : Type} : EStateM.Result ParseError ParserState α → Except ParseError α
  | .ok a _ => .ok a
  | .error e _ => .error e

theorem Parser.parse_eq_outcome (text : String) : Expr.parse text = outcome (fromStart ⟨none, .ofText text⟩) := by
  change _ = outcome (EStateM.bind advance (fun _ => whole) ⟨none, .ofText text⟩)
  unfold Expr.parse EStateM.bind start advance
  rcases (TokenStream.ofText text).next with ⟨e | token, rest⟩
  · rfl
  · cases ran : whole ⟨token, rest⟩ <;> simp [bind, Except.bind, outcome, ran]

/-! ### The tokens before the first error -/

namespace TokenStream

/-- The tokens before the first error, or all of them. -/
def lead : TokenStream → List Token
  | token t rest => t :: rest.lead
  | _ => []

/-- What a stream is behind these. -/
def trail : TokenStream → TokenStream
  | token _ rest => rest.trail
  | stream => stream

/-- The error that a stream starts with. -/
def barrier? : TokenStream → Option LexError
  | fault e _ | stuck e => some e
  | _ => none

/-- Some tokens in front of a stream. -/
def prepend (ts : List Token) (tail : TokenStream) : TokenStream :=
  ts.foldr token tail

theorem prepend_lead (stream : TokenStream) : prepend stream.lead stream.trail = stream := by
  induction stream with
  | token t rest ih => exact congrArg (token t) ih
  | done | fault | stuck => rfl

theorem length_prepend (ts : List Token) (tail : TokenStream) :
    (prepend ts tail).length = ts.length + tail.length := by
  induction ts with
  | nil => simp [prepend]
  | cons t ts ih =>
    simp only [prepend, List.foldr_cons, length, List.length_cons] at ih ⊢
    omega

theorem trail_eq_done {stream : TokenStream} (free : stream.trail.barrier? = none) : stream.trail = done := by
  induction stream with
  | token t rest ih => exact ih free
  | done => rfl
  | fault | stuck => cases free

theorem barrier?_trail {stream : TokenStream} {e : LexError} :
    stream.trail.barrier? = some e ↔ stream.tokens = .error e := by
  induction stream with
  | token t rest ih =>
    rw [trail, ih, tokens]
    cases rest.tokens <;> simp [Except.map]
  | done | fault | stuck => simp [trail, barrier?, tokens]

end TokenStream

/-- Two streams that may follow the same tokens: the first one has an error at once, or both end. -/
structure Fork where
  tail : TokenStream
  tail' : TokenStream
  ends : tail.barrier? = none → tail = .done ∧ tail' = .done

namespace Fork

open DocChain.Parser

variable {α β : Type} {w : Fork} {n : Nat} {cost : α → Nat} {p p' : Parser α} {f f' : α → Parser β}

/-- Whether the first stream has an error behind the tokens. -/
def Barred (w : Fork) : Prop :=
  w.tail.barrier? ≠ none

/-- How the results of two runs over the same `length` tokens agree: they answer the same and stop at the same
token, having moved over `cost` tokens of a barred stream at least; or the first one has met the error; or both
fail with the same error of syntax. -/
inductive Agreement (w : Fork) (cost : α → Nat) (length : Nat) :
    EStateM.Result ParseError ParserState α → EStateM.Result ParseError ParserState α → Prop where
  | answer (a : α) (c : Option Token) (ts : List Token) (moved : w.Barred → ts.length + cost a ≤ length) :
      Agreement w cost length (.ok a ⟨c, .prepend ts w.tail⟩) (.ok a ⟨c, .prepend ts w.tail'⟩)
  | lexical {e : LexError} (met : w.tail.barrier? = some e) (s : ParserState)
      (result : EStateM.Result ParseError ParserState α) : Agreement w cost length (.error (.lex e) s) result
  | syntactic {e : ParseError} (other : ∀ l, e ≠ .lex l) (s s' : ParserState) :
      Agreement w cost length (.error e s) (.error e s')

/-- Two parsers that agree on the same tokens, fewer than `n` if an error follows. -/
def Agree (w : Fork) (n : Nat) (cost : α → Nat) (p p' : Parser α) : Prop :=
  ∀ c ts, (w.Barred → ts.length < n) →
    w.Agreement cost ts.length (p ⟨c, .prepend ts w.tail⟩) (p' ⟨c, .prepend ts w.tail'⟩)

/-- Bounds of repetition or nesting that `n` tokens cannot exhaust, unless they are the same. -/
def Enough (w : Fork) (n bound bound' : Nat) : Prop :=
  bound = bound' ∨ w.Barred ∧ n ≤ bound ∧ n ≤ bound'

theorem Enough.mono {m bound bound' : Nat} (enough : w.Enough n bound bound') (le : m ≤ n) :
    w.Enough m bound bound' :=
  enough.imp_right fun ⟨barred, left, right⟩ => ⟨barred, Nat.le_trans le left, Nat.le_trans le right⟩

theorem Enough.pred {bound bound' : Nat} (enough : w.Enough n (bound + 1) (bound' + 1)) :
    w.Enough (n - 1) bound bound' := by
  rcases enough with same | ⟨barred, left, right⟩
  · exact .inl (by omega)
  · exact .inr ⟨barred, by omega, by omega⟩

namespace Agree

theorem mono {m : Nat} {cost' : α → Nat} (agree : w.Agree n cost p p') (le : m ≤ n)
    (less : ∀ a, cost' a ≤ cost a) : w.Agree m cost' p p' := by
  intro c ts few
  have agreement := agree c ts fun barred => Nat.lt_of_lt_of_le (few barred) le
  generalize p _ = result, p' _ = result' at agreement ⊢
  cases agreement with
  | answer a c ts moved =>
    exact .answer a c ts fun barred => Nat.le_trans (Nat.add_le_add_left (less a) _) (moved barred)
  | lexical met => exact .lexical met ..
  | syntactic other => exact .syntactic other ..

theorem free (agree : w.Agree n cost p p') : w.Agree n (fun _ => 0) p p' :=
  agree.mono (Nat.le_refl n) fun _ => Nat.zero_le _

/-- No tokens are fewer than none. -/
theorem of_barred (barred : w.Barred) (none : n = 0) : w.Agree n cost p p' :=
  fun _ _ few => absurd (few barred) (by omega)

theorem pure {a : α} (costless : cost a = 0) : w.Agree n cost (pure a) (pure a) :=
  fun c ts _ => .answer a c ts fun _ => by omega

theorem throw {e : ParseError} (other : ∀ l, e ≠ .lex l) : w.Agree n cost (throw e) (throw e) :=
  fun _ _ _ => .syntactic other ..

/-- Behind a parser that moves on there are fewer tokens. -/
theorem behind {moves : α → Nat} {cost : β → Nat} (first : w.Agree n moves p p')
    (next : ∀ a, w.Agree (n - moves a) (fun b => cost b - moves a) (f a) (f' a)) :
    w.Agree n cost (p >>= f) (p' >>= f') := by
  intro c ts few
  have agreement := first c ts few
  change w.Agreement cost ts.length (EStateM.bind p f _) (EStateM.bind p' f' _)
  unfold EStateM.bind
  generalize p _ = result, p' _ = result' at agreement ⊢
  cases agreement with
  | answer a c' ts' moved =>
    dsimp only
    have agreement := next a c' ts' fun barred => by
      have := few barred
      have := moved barred
      omega
    generalize f a _ = result, f' a _ = result' at agreement ⊢
    cases agreement with
    | answer b c ts'' moved' =>
      refine .answer b c ts'' fun barred => ?_
      have := moved barred
      have := moved' barred
      omega
    | lexical met => exact .lexical met ..
    | syntactic other => exact .syntactic other ..
  | lexical met => exact .lexical met ..
  | syntactic other => exact .syntactic other ..

theorem bind {moves : α → Nat} {cost : β → Nat} (first : w.Agree n moves p p')
    (next : ∀ a, w.Agree n (fun b => cost b - moves a) (f a) (f' a)) : w.Agree n cost (p >>= f) (p' >>= f') :=
  first.behind fun a => (next a).mono (Nat.sub_le ..) fun _ => Nat.le_refl _

/-- Only moving on can meet the error. -/
theorem advance : w.Agree n (fun _ => 1) advance advance := by
  intro c ts _
  cases ts with
  | cons t ts => exact .answer () (some t) ts fun _ => Nat.le_refl _
  | nil =>
    cases barrier : w.tail.barrier? with
    | some e =>
      have failed : ∃ s, Parser.advance ⟨c, w.tail⟩ = .error (.lex e) s := by
        generalize w.tail = tail at barrier
        cases tail <;> cases barrier <;> exact ⟨_, rfl⟩
      obtain ⟨s, failed⟩ := failed
      change w.Agreement _ _ (Parser.advance ⟨c, w.tail⟩) _
      rw [failed]
      exact .lexical barrier ..
    | none =>
      obtain ⟨done, done'⟩ := w.ends barrier
      change w.Agreement _ _ (Parser.advance ⟨c, w.tail⟩) (Parser.advance ⟨c, w.tail'⟩)
      rw [done, done']
      have moved : w.Agreement (fun _ => 1) 0 (.ok () ⟨none, .prepend [] w.tail⟩)
          (.ok () ⟨none, .prepend [] w.tail'⟩) :=
        .answer () none [] fun barred => absurd barrier barred
      rw [done, done'] at moved
      exact moved

theorem peek : w.Agree n (fun _ => 0) peek peek :=
  fun c ts _ => .answer c c ts fun _ => Nat.le_refl _

theorem take : w.Agree n (fun _ => 0) take take :=
  fun c ts _ => .answer c none ts fun _ => Nat.le_refl _

theorem putBack (t : Option Token) : w.Agree n (fun _ => 0) (putBack t) (putBack t) :=
  fun _ ts _ => .answer () t ts fun _ => Nat.le_refl _

theorem choose (t : Token) {yes yes' no no' : Parser α} (first : w.Agree n cost yes yes')
    (second : w.Agree n cost no no') :
    w.Agree n cost (do if ← check t then yes else no) (do if ← check t then yes' else no') := by
  have checked : w.Agree n (fun _ => 0) (check t) (check t) := peek.bind fun _ => pure rfl
  refine checked.bind fun found => ?_
  split
  · exact first
  · exact second

theorem reject : w.Agree n cost reject reject :=
  peek.bind fun _ => throw nofun

/-- A loop that moves on with each step does not exhaust its bound. -/
theorem iterate {step step' : α → Parser (Option α)}
    (each : ∀ a, w.Agree n (fun found => found.isSome.toNat) (step a) (step' a)) {bound bound' : Nat}
    (enough : w.Enough n bound bound') (a : α) :
    w.Agree n (fun _ => 0) (iterate step bound a) (iterate step' bound' a) := by
  induction bound generalizing bound' n a with
  | zero =>
    rcases enough with rfl | ⟨barred, none, _⟩
    · exact reject
    · exact .of_barred barred (Nat.le_zero.mp none)
  | succ bound ih =>
    cases bound' with
    | zero =>
      obtain ⟨barred, _, none⟩ := enough.resolve_left nofun
      exact .of_barred barred (Nat.le_zero.mp none)
    | succ bound' =>
      unfold Parser.iterate
      refine (each a).behind fun found => ?_
      cases found with
      | none => exact pure rfl
      | some a' =>
        have each' (a : α) : w.Agree (n - 1) (fun found => found.isSome.toNat) (step a) (step' a) :=
          (each a).mono (Nat.sub_le ..) fun _ => Nat.le_refl _
        exact ih each' enough.pred a'

/-! ### The parts of a parser -/

theorem expect (token : Option Token) : w.Agree n (fun _ => 1) (expect token) (expect token) := by
  refine peek.bind fun found => ?_
  split
  · exact advance
  · exact throw nofun

theorem name (what : Expectation) : w.Agree n (fun _ => 1) (name what) (name what) := by
  refine take.bind fun found => ?_
  split
  · exact advance.bind fun _ => pure rfl
  · exact throw nofun

theorem separator (close : Token) : w.Agree n (fun _ => 0) (separator close) (separator close) :=
  choose close (pure rfl) (expect (some .comma)).free

theorem pairKey : w.Agree n (fun _ => 1) pairKey pairKey := by
  refine take.bind fun found => ?_
  split
  · exact advance.bind fun _ => (expect (some .colon)).bind fun _ => pure rfl
  · exact advance.bind fun _ => (expect (some .colon)).bind fun _ => pure rfl
  · exact throw nofun

theorem elements {item item' : Parser α} (agree : w.Agree n (fun _ => 1) item item') (close : Token)
    {bound bound' : Nat} (enough : w.Enough n bound bound') :
    w.Agree n (fun _ => 1)
      (do let as ← Parser.iterate (element close item) bound []; Parser.expect (some close); return as)
      (do let as ← Parser.iterate (element close item') bound' []; Parser.expect (some close); return as) := by
  have step (as : List α) : w.Agree n (fun found => found.isSome.toNat) (element close item as)
      (element close item' as) :=
    choose close (pure rfl) (agree.bind fun _ => (separator close).bind fun _ => pure rfl)
  exact (iterate step enough []).bind fun as => (expect (some close)).bind fun _ => pure rfl

section
variable {expression expression' operand operand' : Parser Expr} {bound bound' : Nat}

section
variable (agree : w.Agree n (fun _ => 1) expression expression') (enough : w.Enough n bound bound')
include agree

theorem accessKey : w.Agree n (fun _ => 1) (accessKey expression) (accessKey expression') := by
  refine take.bind fun found => ?_
  split
  · exact advance.bind fun _ => pure rfl
  · exact advance.bind fun _ => pure rfl
  · exact (putBack _).bind fun _ => agree

theorem bindingOrLambda : w.Agree n (fun _ => 1) (bindingOrLambda expression) (bindingOrLambda expression') :=
  (name .bindingName).bind fun _ =>
    choose .arrow (advance.bind fun _ => agree.bind fun _ => pure rfl) (pure rfl)

include enough

theorem list (close : Token) :
    w.Agree n (fun _ => 1) (list expression bound close) (list expression' bound' close) :=
  elements agree close enough

theorem pairs : w.Agree n (fun _ => 1) (pairs expression bound) (pairs expression' bound') := by
  unfold Parser.pairs
  rw [pair_eq_element, pair_eq_element]
  exact elements (pairKey.bind fun _ => agree.bind fun _ => pure rfl) .rightBrace enough

theorem suffix (object : Expr) :
    w.Agree n (fun found => found.isSome.toNat) (suffix expression bound object)
      (suffix expression' bound' object) := by
  refine choose .leftBracket (advance.bind fun _ => ?_)
    (choose .dot (advance.bind fun _ => (name .memberName).bind fun name => ?_) (pure rfl))
  · exact choose .question (advance.bind fun _ => (expect _).bind fun _ => pure rfl)
      ((accessKey agree).bind fun _ => (expect _).bind fun _ => pure rfl)
  · exact choose .leftParen (advance.bind fun _ => (list agree enough _).bind fun _ => pure rfl) (pure rfl)

end

/-- Each primary expression starts with a token of its own. -/
theorem primaryOf (agree : w.Agree (n - 1) (fun _ => 1) expression expression')
    (agreeOperand : w.Agree (n - 1) (fun _ => 1) operand operand') (enough : w.Enough (n - 1) bound bound')
    (t : Option Token) :
    w.Agree n (fun _ => 1) (primaryOf expression operand bound t) (primaryOf expression' operand' bound' t) := by
  cases t with
  | none => exact throw nofun
  | some t =>
    cases t with
    | float | integer | string | boolean | null | absent | dollar | collection =>
      exact advance.bind fun _ => pure rfl
    | atSign => exact advance.behind fun _ => (bindingOrLambda agree).free
    | leftParen => exact advance.behind fun _ => agree.bind fun _ => (expect _).bind fun _ => pure rfl
    | minus => exact advance.behind fun _ => agreeOperand.bind fun _ => pure rfl
    | leftBrace => exact advance.behind fun _ => (pairs agree enough).bind fun _ => pure rfl
    | leftBracket => exact advance.behind fun _ => (list agree enough _).bind fun _ => pure rfl
    | _ => exact throw nofun

/-! ### Operators -/

section
variable (agree : w.Agree n (fun _ => 1) operand operand')
include agree

theorem joined (op? : Token → Option BinaryOp) (left : Expr) :
    w.Agree n (fun found => found.isSome.toNat) (joined op? operand left) (joined op? operand' left) := by
  refine peek.bind fun found => ?_
  split
  · exact pure rfl
  · exact advance.bind fun _ => agree.bind fun _ => pure rfl

theorem comparison : w.Agree n (fun _ => 1) (comparison operand) (comparison operand') :=
  agree.bind fun left => (joined agree comparisonOp? left).free.bind fun _ => pure rfl

variable (enough : w.Enough n bound bound')
include enough

theorem leftAssociative (op? : Token → Option BinaryOp) :
    w.Agree n (fun _ => 1) (leftAssociative op? operand bound) (leftAssociative op? operand' bound') :=
  agree.bind fun e => iterate (joined agree op?) enough e

end

theorem levels (agree : w.Agree n (fun _ => 1) operand operand') (enough : w.Enough n bound bound') :
    w.Agree n (fun _ => 1) (levels operand bound) (levels operand' bound') := by
  have product := leftAssociative agree enough productOp?
  have sum := leftAssociative product enough sumOp?
  have conjunction := leftAssociative (comparison sum) enough andOp?
  exact leftAssociative conjunction enough orOp?

end

/-- Each operand takes a token, and nests an expression only behind one: twice the number of tokens is depth
enough. -/
theorem within {depth depth' : Nat} :
    (w.Enough (2 * n - 1) depth depth' →
      w.Agree n (fun _ => 1) (operandWithin depth) (operandWithin depth')) ∧
    (w.Enough (2 * n) depth depth' →
      w.Agree n (fun _ => 1) (expressionWithin depth) (expressionWithin depth')) := by
  induction depth generalizing depth' n with
  | zero =>
    constructor
    · rintro (rfl | ⟨barred, none, _⟩)
      · exact reject
      · exact .of_barred barred (by omega)
    · rintro (rfl | ⟨barred, none, _⟩)
      · exact reject
      · exact .of_barred barred (by omega)
  | succ depth ih =>
    cases depth' with
    | zero =>
      constructor <;> intro enough <;> obtain ⟨barred, _, none⟩ := enough.resolve_left nofun <;>
        exact .of_barred barred (by omega)
    | succ depth' =>
      constructor
      · intro enough
        have inside := enough.pred
        have agree := (ih (n := n - 1)).2 (inside.mono (by omega))
        have agreeOperand := (ih (n := n - 1)).1 (inside.mono (by omega))
        have repeats : w.Enough (n - 1) depth depth' := inside.mono (by omega)
        unfold operandWithin
        refine take.bind fun found => (primaryOf agree agreeOperand repeats found).behind fun e => ?_
        exact iterate (suffix agree repeats) repeats e
      · intro enough
        have inside := enough.pred
        unfold expressionWithin
        exact levels (ih.1 inside) (inside.mono (by omega))

/-- The depth of an expression is bounded by its stream, which goes on behind the shared tokens. -/
theorem expression : w.Agree n (fun _ => 1) expression expression := by
  intro c ts few
  have enough : w.Enough (2 * (ts.length + 1)) (2 * (TokenStream.prepend ts w.tail).length + 6)
      (2 * (TokenStream.prepend ts w.tail').length + 6) := by
    simp only [TokenStream.length_prepend]
    rcases Decidable.em (w.tail.barrier? = none) with free | barred
    · obtain ⟨done, done'⟩ := w.ends free
      exact .inl (by rw [done, done'])
    · exact .inr ⟨barred, by omega, by omega⟩
  exact within.2 enough c ts fun _ => Nat.lt_succ_self _

theorem fromStart : w.Agree n (fun _ => 1) fromStart fromStart :=
  advance.bind fun _ => expression.free.bind fun _ => (expect none).free.bind fun _ => pure rfl

end Agree

end Fork

/-- Two texts with the same tokens in front are parsed alike, without a lexical error, unless the first one has an
error behind them and meets it. -/
theorem Fork.parse_agrees (w : Fork) {ts : List Token} {text text' : String}
    (stream : TokenStream.ofText text = .prepend ts w.tail)
    (stream' : TokenStream.ofText text' = .prepend ts w.tail') :
    (∃ e, w.tail.barrier? = some e ∧ Expr.parse text = .error (.lex e)) ∨
      Expr.parse text = Expr.parse text' ∧ ∀ e, Expr.parse text ≠ .error (.lex e) := by
  have agreement := Agree.fromStart (w := w) (n := ts.length + 1) none ts fun _ => Nat.lt_succ_self _
  rw [Parser.parse_eq_outcome, Parser.parse_eq_outcome, stream, stream']
  generalize Parser.fromStart ⟨none, .prepend ts w.tail⟩ = result,
    Parser.fromStart ⟨none, .prepend ts w.tail'⟩ = result' at agreement ⊢
  cases agreement with
  | answer e => exact .inr ⟨rfl, nofun⟩
  | lexical met => exact .inl ⟨_, met, rfl⟩
  | syntactic other =>
    refine .inr ⟨rfl, fun e same => ?_⟩
    cases same
    exact other e rfl

namespace Expr

/-- The parser and the lexer agree on lexical errors. One that is reported is the first of the text; a text that
has one is reported for it, or for an error of syntax that every text has which starts with the tokens before it;
and where there is none, none is reported. -/
theorem parse_lexical_errors (text : String) :
    (∀ e, Expr.parse text = .error (.lex e) → tokenize text = .error e) ∧
    (∀ e, tokenize text = .error e → Expr.parse text = .error (.lex e) ∨
      ∃ err, (∀ l, err ≠ .lex l) ∧ ∀ text',
        (TokenStream.ofText text).lead <+: (TokenStream.ofText text').lead → Expr.parse text' = .error err) ∧
    (∀ ts, tokenize text = .ok ts → ∀ e, Expr.parse text ≠ .error (.lex e)) := by
  have stream := (TokenStream.prepend_lead (.ofText text)).symm
  -- The same text twice: a lexical error is the one that its stream has.
  have itself := Fork.parse_agrees
    ⟨_, _, fun free => ⟨TokenStream.trail_eq_done free, TokenStream.trail_eq_done free⟩⟩ stream stream
  have reported (e : LexError) (failed : Expr.parse text = .error (.lex e)) : tokenize text = .error e := by
    rcases itself with ⟨e', met, failed'⟩ | ⟨_, never⟩
    · rw [failed'] at failed
      cases failed
      exact TokenStream.barrier?_trail.mp met
    · exact absurd failed (never e)
  refine ⟨reported, fun e lexed => ?_, fun ts lexed e failed => ?_⟩
  · have met := TokenStream.barrier?_trail.mpr lexed
    rcases itself with ⟨e', met', failed⟩ | ⟨_, never⟩
    · rw [met] at met'
      cases met'
      exact .inl failed
    · cases found : Expr.parse text with
      | ok parsed =>
        obtain ⟨ts, lexed', _⟩ := derives_of_parse found
        rw [lexed] at lexed'
        cases lexed'
      | error err =>
        refine .inr ⟨err, ?_, fun text' ⟨more, longer⟩ => ?_⟩
        · rintro l rfl
          exact never l found
        · have stream' := (TokenStream.prepend_lead (.ofText text')).symm
          rw [← longer, TokenStream.prepend, List.foldr_append] at stream'
          have barred : (TokenStream.ofText text).trail.barrier? ≠ none := by simp [met]
          rcases Fork.parse_agrees ⟨_, _, fun free => absurd free barred⟩ stream stream' with
            ⟨l, _, failed⟩ | ⟨same, _⟩
          · exact absurd failed (never l)
          · rw [← same, found]
  · rw [reported e failed] at lexed
    cases lexed

/-- Behind a stray bracket an open string is not reached, like anything else; as an operand it is reported. -/
theorem parse_lexical_errors_string :
    let hidden := Expr.parse "@p ) 'a"
    (tokenize "@p ) 'a" = .error (.unterminatedString 5) ∧
      hidden = .error (.expected (.token none) (some .rightParen)) ∧ Expr.parse "@p ) 1, 2" = hidden) ∧
    Expr.parse "@p == 'a )" = .error (.lex (.unterminatedString 6)) ∧
      tokenize "@p == 'a )" = .error (.unterminatedString 6) := by
  intro hidden
  have stream : TokenStream.ofText "@p ) 'a" = .prepend [.atSign, .identifier "p", .rightParen]
      (.fault (.unterminatedString 5) .done) := by
    decide +kernel
  have longer : TokenStream.ofText "@p ) 1, 2" = .prepend [.atSign, .identifier "p", .rightParen, .integer 1,
      .comma, .integer 2] .done := by
    decide +kernel
  have operand : TokenStream.ofText "@p == 'a )" = .prepend [.atSign, .identifier "p", .equal]
      (.fault (.unterminatedString 6) .done) := by
    decide +kernel
  have lexed : tokenize "@p ) 'a" = .error (.unterminatedString 5) := by
    rw [tokenize, stream]
    rfl
  have found : hidden = .error (.expected (.token none) (some .rightParen)) := by
    rw [show hidden = _ from Parser.parse_eq_outcome _, stream]
    rfl
  have met : Expr.parse "@p == 'a )" = .error (.lex (.unterminatedString 6)) := by
    rw [Parser.parse_eq_outcome, operand]
    rfl
  refine ⟨⟨lexed, found, ?_⟩, met, (parse_lexical_errors _).1 _ met⟩
  rcases (parse_lexical_errors _).2.1 _ lexed with lexical | ⟨err, _, always⟩
  · rw [show Expr.parse _ = _ from found] at lexical
    cases lexical
  · have here : hidden = .error err := always _ (List.prefix_refl _)
    rw [here]
    refine always _ ?_
    rw [stream, longer]
    decide

end Expr

end DocChain
