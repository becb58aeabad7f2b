import DocChain.Proofs.ParserSoundness

/-!
# What is derived is what the parser answers

The parser is run along a derivation whose lambdas have longest bodies. It goes on as long as an operator
can be read, so a phrase is read as derived if no operator of its level follows, or if it is a longest
one. The tokens ahead bound the nesting and the loops.
-/

namespace DocChain

open Grammar

namespace Grammar

/-! ### Where phrases end -/

/-- The level of the operands of an operator. -/
def Level.next : Level → Level
  | series s => s.item
  | comparison => .series .sum
  | operand => .operand

/-- Whether an operand would go on at a token: with a suffix, or as a lambda. -/
def goesOn : Token → Bool
  | .arrow | .leftBracket | .leftParen | .dot => true
  | _ => false

/-- The tokens that end the expressions of a list or a bracket. -/
def isDelimiter : Token → Bool
  | .rightParen | .rightBracket | .rightBrace | .comma => true
  | _ => false

/-- The tokens that an expression can start with. -/
def opens : Token → Bool
  | .atSign | .leftParen | .minus | .leftBrace | .leftBracket => true
  | t => (atom? t).isSome

/-- Whether an expression can end before `rest`: nothing goes on there, and an operator has an operand. -/
structure Ready (rest : List Token) : Prop where
  ended : ∀ t ∈ rest.head?, goesOn t = false
  operand : ∀ t behind ℓ, rest = t :: behind → level? t = some ℓ →
    ∃ right rest', Derives Plain (.level ℓ.next right) behind rest'

/-- Whether no operator of a level or of a tighter one follows. -/
def Stops (ℓ : Level) (rest : List Token) : Prop :=
  ∀ t ∈ rest.head?, ∀ ℓ', level? t = some ℓ' → ℓ'.rank < ℓ.rank

/-- Whether nothing of a form takes more tokens than up to `rest`. -/
def Longest (φ : Expr → Phrase) (ts rest : List Token) : Prop :=
  ∀ e rest', Derives Plain (φ e) ts rest' → rest.length ≤ rest'.length

theorem goesOn_of_level? {t : Token} {ℓ : Level} (operator : level? t = some ℓ) : goesOn t = false := by
  cases t <;> first | rfl | cases operator

theorem level?_of_delimiter {t : Token} (delimiter : isDelimiter t = true) : level? t = none := by
  cases t <;> first | rfl | cases delimiter

theorem goesOn_of_delimiter {t : Token} (delimiter : isDelimiter t = true) : goesOn t = false := by
  cases t <;> first | rfl | cases delimiter

theorem opens_of_atom? {t : Token} {e : Expr} (read : atom? t = some e) : opens t = true := by
  cases t <;> first | rfl | cases read

theorem opens_of_delimiter {t : Token} (delimiter : isDelimiter t = true) : opens t = false := by
  cases t <;> first | rfl | cases delimiter

theorem Ready.nil : Ready [] :=
  ⟨by simp, by simp⟩

theorem Ready.delimiter {t : Token} (delimiter : isDelimiter t = true) (rest : List Token) : Ready (t :: rest) := by
  constructor
  · rintro _ ⟨⟩
    exact goesOn_of_delimiter delimiter
  · rintro _ _ ℓ ⟨⟩ operator
    rw [level?_of_delimiter delimiter] at operator
    cases operator

theorem Ready.operator {t : Token} {ℓ : Level} {right : Expr} {behind rest' : List Token}
    (operator : level? t = some ℓ) (operand : Derives Plain (.level ℓ.next right) behind rest') :
    Ready (t :: behind) := by
  constructor
  · rintro _ ⟨⟩
    exact goesOn_of_level? operator
  · rintro _ _ ℓ' ⟨⟩ same
    rw [operator] at same
    cases same
    exact ⟨right, rest', operand⟩

theorem Stops.nil (ℓ : Level) : Stops ℓ [] := by
  simp [Stops]

theorem Stops.delimiter (ℓ : Level) {t : Token} (delimiter : isDelimiter t = true) (rest : List Token) :
    Stops ℓ (t :: rest) := by
  rintro _ ⟨⟩ ℓ' operator
  rw [level?_of_delimiter delimiter] at operator
  cases operator

theorem Stops.operator {ℓ ℓ' : Level} {t : Token} (operator : level? t = some ℓ') (looser : ℓ'.rank < ℓ.rank)
    (rest : List Token) : Stops ℓ (t :: rest) := by
  rintro _ ⟨⟩ _ same
  rw [operator] at same
  cases same
  exact looser

theorem Stops.mono {ℓ tighter : Level} {rest : List Token} (stops : Stops ℓ rest) (le : ℓ.rank ≤ tighter.rank) :
    Stops tighter rest := by
  intro t follows ℓ' operator
  have looser := stops t follows ℓ' operator
  omega

section
variable {Allowed : List Token → List Token → Prop}

/-- Behind an operand there is one more operator of the level, or the rest. -/
theorem Derives.tail_cases {s : Series} {left e : Expr} {mid rest : List Token}
    (others : Derives Allowed (.tail s left e) mid rest) :
    mid = rest ∨ ∃ t op behind right rest', mid = t :: behind ∧ s.op? t = some op ∧
      Derives Plain (.level s.item right) behind rest' := by
  cases others with
  | done => exact .inl rfl
  | more read operand _ => exact .inr ⟨_, _, _, _, _, rfl, read, operand.plain⟩

theorem Ready.of_tail {s : Series} {left e : Expr} {mid rest : List Token} (ready : Ready rest)
    (others : Derives Allowed (.tail s left e) mid rest) : Ready mid := by
  rcases others.tail_cases with rfl | ⟨t, op, behind, right, rest', rfl, read, operand⟩
  · exact ready
  · exact .operator (level?_of_op? read) operand

/-- An operand of a level ends at an operator of the level, or where the phrase does. -/
theorem ends_of_tail {s : Series} {left e : Expr} {ts mid rest : List Token}
    (others : Derives Allowed (.tail s left e) mid rest)
    (ends : Stops (.series s) rest ∨ Longest (.level s.item) ts rest) :
    Stops s.item mid ∨ Longest (.level s.item) ts mid := by
  rcases others.tail_cases with rfl | ⟨t, op, behind, _, _, rfl, read, _⟩
  · exact ends.imp_left fun stops => stops.mono (by rw [rank_item]; omega)
  · exact .inl (.operator (level?_of_op? read) (by rw [rank_item]; omega) behind)

theorem Derives.opens_head {φ : Phrase} {ts rest : List Token} (derived : Derives Allowed φ ts rest)
    (kind : (∃ ℓ e, φ = .level ℓ e) ∨ ∃ e, φ = .primary e) : ∃ t ∈ ts.head?, opens t = true := by
  induction derived with
  | series _ _ ih => exact ih (.inl ⟨_, _, rfl⟩)
  | alone _ ih => exact ih (.inl ⟨_, _, rfl⟩)
  | compared _ _ _ ih => exact ih (.inl ⟨_, _, rfl⟩)
  | suffixed _ _ ih => exact ih (.inr ⟨_, rfl⟩)
  | atom _ read => exact ⟨_, rfl, opens_of_atom? read⟩
  | negative | lambda | binding | group | object | array => exact ⟨_, rfl, rfl⟩
  | _ => simp at kind

/-- No expression starts with another token. -/
theorem Derives.head_ne {ℓ : Level} {e : Expr} {t : Token} {ts rest : List Token}
    (derived : Derives Allowed (.level ℓ e) ts rest) (other : opens t = false) : ts.head? ≠ some t := by
  intro first
  obtain ⟨t', there, isOpening⟩ := derived.opens_head (.inl ⟨_, _, rfl⟩)
  rw [first] at there
  cases there
  rw [other] at isOpening
  cases isOpening

/-! ### Longest phrases -/

theorem Longest.head {s : Series} {ts rest : List Token}
    (longest : Longest (.level (.series s)) ts rest) : Longest (.level s.item) ts rest :=
  fun e rest' derived => longest e rest' (.series derived (.done ..))

theorem Longest.others {s : Series} {first : Expr} {ts mid rest : List Token}
    (longest : Longest (.level (.series s)) ts rest) (head : Derives Plain (.level s.item first) ts mid) :
    Longest (.tail s first) mid rest :=
  fun e rest' derived => longest e rest' (.series head derived)

end

end Grammar

/-! ### Runs over known tokens -/

namespace Parser

variable {α β : Type}

theorem run_bind {p : Parser α} {f : α → Parser β} {s m n : ParserState} {a : α} {b : β}
    (first : p s = .ok a m) (next : f a m = .ok b n) : (p >>= f) s = .ok b n :=
  run_bind_ok.mpr ⟨a, m, first, next⟩

theorem run_advance (c : Option Token) (ts : List Token) :
    advance ⟨c, .ofTokens ts⟩ = .ok () (.ofTokens ts) := by
  cases ts <;> rfl

/-- The look-ahead decides for the first choice. -/
theorem run_yes {t : Token} {ts : List Token} {yes no : Parser α} {a : α} {s : ParserState}
    (there : ts.head? = some t) (ran : yes (.ofTokens ts) = .ok a s) :
    (do if ← check t then yes else no) (.ofTokens ts) = .ok a s := by
  refine run_bind (a := true) (m := .ofTokens ts) ?_ ran
  refine run_bind (a := some t) (m := .ofTokens ts) ?_ ?_
  · rw [← there]
    rfl
  · simp
    rfl

theorem run_no {t : Token} {ts : List Token} {yes no : Parser α} {a : α} {s : ParserState}
    (other : ts.head? ≠ some t) (ran : no (.ofTokens ts) = .ok a s) :
    (do if ← check t then yes else no) (.ofTokens ts) = .ok a s := by
  refine run_bind (a := false) (m := .ofTokens ts) ?_ ran
  refine run_bind (a := ts.head?) (m := .ofTokens ts) rfl ?_
  simp [other]
  rfl

theorem run_expect (t : Token) (ts : List Token) :
    expect (some t) (.ofTokens (t :: ts)) = .ok () (.ofTokens ts) := by
  refine run_bind (a := some t) (m := .ofTokens (t :: ts)) rfl ?_
  rw [if_pos rfl]
  exact run_advance _ ts

theorem run_name (what : Expectation) (found : String) (ts : List Token) :
    name what (.ofTokens (.identifier found :: ts)) = .ok found (.ofTokens ts) := by
  refine run_bind (a := some (.identifier found)) rfl ?_
  exact run_bind (run_advance none ts) rfl

/-! ### Lists -/

section
variable {item : Parser α} {close : Token} {prior : List α} {ts rest : List Token} {a : α} {bound : Nat}

/-- Where a list closes there are no more elements. -/
theorem run_closed (rest : List Token) :
    iterate (element close item) (bound + 1) prior (.ofTokens (close :: rest)) =
      .ok prior (.ofTokens (close :: rest)) :=
  run_bind (a := none) (run_yes rfl rfl) rfl

theorem run_separator_close (rest : List Token) :
    separator close (.ofTokens (close :: rest)) = .ok () (.ofTokens (close :: rest)) :=
  run_yes rfl rfl

theorem run_separator_comma (other : close ≠ .comma) (rest : List Token) :
    separator close (.ofTokens (.comma :: rest)) = .ok () (.ofTokens rest) :=
  run_no (fun same => other (Option.some.inj same).symm) (run_expect .comma rest)

theorem run_element {m : ParserState} (opens : ts.head? ≠ some close) (ran : item (.ofTokens ts) = .ok a m)
    (separated : separator close m = .ok () (.ofTokens rest)) :
    element close item prior (.ofTokens ts) = .ok (some (prior ++ [a])) (.ofTokens rest) :=
  run_no opens (run_bind ran (run_bind separated rfl))

end

/-! ### Levels -/

/-- The parser of a level over its operands. -/
def ofLevel (operand : Parser Expr) (bound : Nat) (ℓ : Level) : Parser Expr :=
  let product := leftAssociative productOp? operand bound
  let sum := leftAssociative sumOp? product bound
  let conjunction := leftAssociative andOp? (comparison sum) bound
  match ℓ with
  | .operand => operand
  | .series .product => product
  | .series .sum => sum
  | .comparison => comparison sum
  | .series .conjunction => conjunction
  | .series .disjunction => leftAssociative orOp? conjunction bound

theorem ofLevel_series (operand : Parser Expr) (bound : Nat) (s : Series) :
    ofLevel operand bound (.series s) = leftAssociative s.op? (ofLevel operand bound s.item) bound := by
  cases s <;> rfl

theorem ofLevel_comparison (operand : Parser Expr) (bound : Nat) :
    ofLevel operand bound .comparison = comparison (ofLevel operand bound (.series .sum)) := rfl

/-- What the parser of a phrase answers where the tokens of the phrase are ahead. The depth and the bounds
are those that the number of tokens asks for. -/
def Runs (ts rest : List Token) : Phrase → Prop
  | .level ℓ e => Ready rest → Stops ℓ rest ∨ Longest (.level ℓ) ts rest → ∀ depth, 2 * ts.length + 1 ≤ depth →
      ofLevel (operandWithin depth) depth ℓ (.ofTokens ts) = .ok e (.ofTokens rest)
  | .tail s left e => Ready rest → Stops (.series s) rest ∨ Longest (.tail s left) ts rest →
      ∀ depth bound, 2 * ts.length + 1 ≤ depth → ts.length + 1 ≤ bound →
      iterate (joined s.op? (ofLevel (operandWithin depth) depth s.item)) bound left (.ofTokens ts) =
        .ok e (.ofTokens rest)
  | .suffixes object e => Ready rest → ∀ depth bound, 2 * ts.length ≤ depth → ts.length + 1 ≤ bound →
      iterate (suffix (expressionWithin depth) depth) bound object (.ofTokens ts) = .ok e (.ofTokens rest)
  | .primary e => rest.head? ≠ some .arrow → ∀ depth, 2 * ts.length ≤ depth →
      (take >>= primaryOf (expressionWithin depth) (operandWithin depth) depth) (.ofTokens ts) =
        .ok e (.ofTokens rest)
  | .key e => rest.head? = some .rightBracket → ∀ depth, 2 * ts.length + 2 ≤ depth →
      accessKey (expressionWithin depth) (.ofTokens ts) = .ok e (.ofTokens rest)
  | .list close items => isDelimiter close = true → close ≠ .comma → ∀ depth bound prior,
      2 * ts.length + 2 ≤ depth → ts.length + 1 ≤ bound →
      iterate (listItem (expressionWithin depth) close) bound prior (.ofTokens ts) =
        .ok (prior ++ items) (.ofTokens rest)
  | .pairs ps => ∀ depth bound prior, 2 * ts.length + 2 ≤ depth → ts.length + 1 ≤ bound →
      iterate (pair (expressionWithin depth)) bound prior (.ofTokens ts) = .ok (prior ++ ps) (.ofTokens rest)

/-- An expression before a delimiter, a closing token or the end. -/
theorem Runs.expression {ts rest : List Token} {e : Expr} (runs : Runs ts rest (.level .expression e))
    (ready : Ready rest) (ends : Stops .expression rest ∨ Longest (.level .expression) ts rest) (depth : Nat)
    (enough : 2 * ts.length + 2 ≤ depth) :
    expressionWithin depth (.ofTokens ts) = .ok e (.ofTokens rest) := by
  cases depth with
  | zero => omega
  | succ depth => exact runs ready ends depth (by omega)

theorem run_joined_none {op? : Token → Option BinaryOp} {operand : Parser Expr} {left : Expr} {rest : List Token}
    (ends : rest.head?.bind op? = none) :
    joined op? operand left (.ofTokens rest) = .ok none (.ofTokens rest) := by
  refine run_bind (a := rest.head?) (m := .ofTokens rest) rfl ?_
  simp only [ends]
  rfl

theorem run_joined_some {op? : Token → Option BinaryOp} {operand : Parser Expr} {left right : Expr} {t : Token}
    {op : BinaryOp} {ts rest : List Token} (read : op? t = some op)
    (ran : operand (.ofTokens ts) = .ok right (.ofTokens rest)) :
    joined op? operand left (.ofTokens (t :: ts)) = .ok (some (.binary op left right)) (.ofTokens rest) := by
  refine run_bind (a := some t) (m := .ofTokens (t :: ts)) rfl ?_
  simp only [Option.bind_some, read]
  exact run_bind (run_advance _ ts) (run_bind ran rfl)

/-- Behind the last operand of a level no operator of it can be read. -/
theorem bind_op?_of_ends {s : Series} {left : Expr} {rest : List Token} (ready : Ready rest)
    (ends : Stops (.series s) rest ∨ Longest (.tail s left) rest rest) : rest.head?.bind s.op? = none := by
  cases rest with
  | nil => rfl
  | cons t behind =>
    refine Option.eq_none_iff_forall_ne_some.mpr fun op read => ?_
    have operator := level?_of_op? read
    rcases ends with stops | longest
    · exact absurd (stops t rfl _ operator) (Nat.lt_irrefl _)
    · obtain ⟨right, rest', operand⟩ := ready.operand t behind _ rfl operator
      have longer := longest _ rest' (.more read operand (.done ..))
      have shorter := operand.length_le
      simp only [List.length_cons, Phrase.least] at longer shorter
      omega

/-! ### One lemma for each form -/

section
variable {ts mid rest : List Token}

theorem Runs.series {s : Series} {first e : Expr} (head : Derives Plain (.level s.item first) ts mid)
    (others : Derives Plain (.tail s first e) mid rest) (runsHead : Runs ts mid (.level s.item first))
    (runsOthers : Runs mid rest (.tail s first e)) : Runs ts rest (.level (.series s) e) := by
  intro ready ends depth enough
  have shorter := head.length_le
  simp only [Phrase.least] at shorter
  have endsHead : Stops s.item mid ∨ Longest (.level s.item) ts mid :=
    ends_of_tail others (ends.imp_right Longest.head)
  have endsOthers : Stops (.series s) rest ∨ Longest (.tail s first) mid rest :=
    ends.imp_right fun longest => longest.others head
  rw [ofLevel_series]
  exact run_bind (runsHead (ready.of_tail others) endsHead depth enough)
    (runsOthers ready endsOthers depth depth (by omega) (by omega))

theorem Runs.done (s : Series) (e : Expr) (rest : List Token) : Runs rest rest (.tail s e e) := by
  intro ready ends depth bound _ room
  cases bound with
  | zero => omega
  | succ bound => exact run_bind (run_joined_none (bind_op?_of_ends ready ends)) rfl

theorem Runs.more {s : Series} {left right e : Expr} {t : Token} {op : BinaryOp} (read : s.op? t = some op)
    (operand : Derives Plain (.level s.item right) ts mid)
    (others : Derives Plain (.tail s (.binary op left right) e) mid rest)
    (runsOperand : Runs ts mid (.level s.item right)) (runsOthers : Runs mid rest (.tail s (.binary op left right) e)) :
    Runs (t :: ts) rest (.tail s left e) := by
  intro ready ends depth bound enough room
  have shorter := operand.length_le
  simp only [Phrase.least, List.length_cons] at shorter enough room
  have endsOperand : Stops s.item mid ∨ Longest (.level s.item) ts mid :=
    ends_of_tail others (ends.imp_right fun longest e rest' longer =>
      longest _ rest' (.more read longer (.done ..)))
  have endsOthers : Stops (.series s) rest ∨ Longest (.tail s (.binary op left right)) mid rest :=
    ends.imp_right fun longest e rest' longer => longest e rest' (.more read operand longer)
  cases bound with
  | zero => omega
  | succ bound =>
    have ranOperand := runsOperand (ready.of_tail others) endsOperand depth (by omega)
    exact run_bind (run_joined_some read ranOperand)
      (runsOthers ready endsOthers depth bound (by omega) (by omega))

theorem Runs.alone {e : Expr} (sum : Derives Plain (.level (.series .sum) e) ts rest)
    (runs : Runs ts rest (.level (.series .sum) e)) : Runs ts rest (.level .comparison e) := by
  intro ready ends depth enough
  have endsSum : Stops (.series .sum) rest ∨ Longest (.level (.series .sum)) ts rest :=
    ends.imp (fun stops => stops.mono (by decide)) fun longest e rest' longer => longest e rest' (.alone longer)
  have noComparison : rest.head?.bind comparisonOp? = none := by
    cases rest with
    | nil => rfl
    | cons t behind =>
      refine Option.eq_none_iff_forall_ne_some.mpr fun op read => ?_
      have operator := level?_of_comparisonOp? read
      rcases ends with stops | longest
      · exact absurd (stops t rfl _ operator) (Nat.lt_irrefl _)
      · obtain ⟨right, rest', operand⟩ := ready.operand t behind _ rfl operator
        have longer := longest _ rest' (.compared sum read operand)
        have shorter := operand.length_le
        simp only [List.length_cons, Phrase.least] at longer shorter
        omega
  rw [ofLevel_comparison]
  exact run_bind (runs ready endsSum depth enough) (run_bind (run_joined_none noComparison) rfl)

theorem Runs.compared {left right : Expr} {t : Token} {op : BinaryOp}
    (first : Derives Plain (.level (.series .sum) left) ts (t :: mid)) (read : comparisonOp? t = some op)
    (second : Derives Plain (.level (.series .sum) right) mid rest)
    (runsFirst : Runs ts (t :: mid) (.level (.series .sum) left))
    (runsSecond : Runs mid rest (.level (.series .sum) right)) :
    Runs ts rest (.level .comparison (.binary op left right)) := by
  intro ready ends depth enough
  have shorter := first.length_le
  simp only [Phrase.least, List.length_cons] at shorter
  have operator := level?_of_comparisonOp? read
  have endsFirst : Stops (.series .sum) (t :: mid) := .operator operator (by decide) mid
  have endsSecond : Stops (.series .sum) rest ∨ Longest (.level (.series .sum)) mid rest :=
    ends.imp (fun stops => stops.mono (by decide)) fun longest e rest' longer =>
      longest _ rest' (.compared first read longer)
  rw [ofLevel_comparison]
  have ranFirst := runsFirst (.operator operator second) (.inl endsFirst) depth enough
  have ranSecond := runsSecond ready endsSecond depth (by omega)
  exact run_bind ranFirst (run_bind (run_joined_some read ranSecond) rfl)

/-- Where nothing goes on there are no suffixes. -/
theorem run_unsuffixed {expression : Parser Expr} (ready : Ready rest) (depth bound : Nat) (object : Expr) :
    iterate (suffix expression depth) (bound + 1) object (.ofTokens rest) = .ok object (.ofTokens rest) := by
  have noBracket : rest.head? ≠ some .leftBracket := fun first => by cases ready.ended _ first
  have noDot : rest.head? ≠ some .dot := fun first => by cases ready.ended _ first
  exact run_bind (run_no noBracket (run_no noDot rfl)) rfl

theorem Runs.negative {e : Expr} (runs : Runs ts rest (.level .operand e)) :
    Runs (.minus :: ts) rest (.level .operand (.binary (.arithmetic .subtract) (.integer 0) e)) := by
  intro ready ends depth enough
  have endsOperand : Stops .operand rest ∨ Longest (.level .operand) ts rest :=
    ends.imp_right fun longest e rest' longer => longest _ rest' (.negative longer)
  simp only [List.length_cons] at enough
  rcases depth with _ | _ | depth
  · omega
  · omega
  · have ran := runs ready endsOperand (depth + 1) (by omega)
    have read : primaryOf (expressionWithin (depth + 1)) (operandWithin (depth + 1)) (depth + 1) (some .minus)
        ⟨none, .ofTokens ts⟩ = .ok (.binary (.arithmetic .subtract) (.integer 0) e) (.ofTokens rest) :=
      run_bind (run_advance none ts) (run_bind ran rfl)
    exact run_bind (a := some .minus) rfl (run_bind read (run_unsuffixed ready (depth + 1) depth _))

theorem Runs.lambda (param : String) {body : Expr} (greedy : Greedy ts rest)
    (runs : Runs ts rest (.level .expression body)) :
    Runs (.atSign :: .identifier param :: .arrow :: ts) rest (.level .operand (.lambda param body)) := by
  intro ready _ depth enough
  -- The body is a longest one if an operator follows.
  have ends : Stops .expression rest ∨ Longest (.level .expression) ts rest := by
    by_cases follows : ∃ t ∈ rest.head?, (level? t).isSome
    · obtain ⟨t, first, operator⟩ := follows
      exact .inr (greedy t first operator)
    · refine .inl fun t first ℓ operator => absurd ⟨t, first, ?_⟩ follows
      rw [operator]
      rfl
  simp only [List.length_cons] at enough
  rcases depth with _ | _ | depth
  · omega
  · omega
  · have ranBody := runs.expression ready ends (depth + 1) (by omega)
    have ran : bindingOrLambda (expressionWithin (depth + 1)) (.ofTokens (.identifier param :: .arrow :: ts)) =
        .ok (.lambda param body) (.ofTokens rest) :=
      run_bind (run_name _ param _) (run_yes rfl (run_bind (run_advance _ ts) (run_bind ranBody rfl)))
    refine run_bind (a := some .atSign) rfl (run_bind (run_bind (run_advance none _) ran) ?_)
    exact run_unsuffixed ready (depth + 1) depth _

theorem Runs.suffixed {object e : Expr} (primary : Derives Plain (.primary object) ts mid)
    (others : Derives Plain (.suffixes object e) mid rest) (runsPrimary : Runs ts mid (.primary object))
    (runsOthers : Runs mid rest (.suffixes object e)) : Runs ts rest (.level .operand e) := by
  intro ready _ depth enough
  have shorter := primary.length_le
  simp only [Phrase.least] at shorter
  have noArrow : mid.head? ≠ some .arrow := by
    cases others with
    | bare => exact fun first => by cases ready.ended _ first
    | existence | access | member | call => rintro ⟨⟩
  cases depth with
  | zero => omega
  | succ depth =>
    refine run_bind_ok.mpr ?_
    obtain ⟨t, _, taken, read⟩ := run_bind_ok.mp (runsPrimary noArrow depth (by omega))
    exact ⟨t, _, taken, run_bind read (runsOthers ready depth depth (by omega) (by omega))⟩

/-! ### Suffixes -/

theorem Runs.bare (e : Expr) (rest : List Token) : Runs rest rest (.suffixes e e) := by
  intro ready depth bound _ room
  cases bound with
  | zero => omega
  | succ bound => exact run_unsuffixed ready depth bound e

theorem Runs.existence {object e : Expr} (runs : Runs ts rest (.suffixes (.existence object) e)) :
    Runs (.leftBracket :: .question :: .rightBracket :: ts) rest (.suffixes object e) := by
  intro ready depth bound enough room
  simp only [List.length_cons] at enough room
  cases bound with
  | zero => omega
  | succ bound =>
    have ran : suffix (expressionWithin depth) depth object
        (.ofTokens (.leftBracket :: .question :: .rightBracket :: ts)) =
          .ok (some (.existence object)) (.ofTokens ts) :=
      run_yes rfl (run_bind (run_advance _ _) (run_yes rfl (run_bind (run_advance _ _)
        (run_bind (run_expect .rightBracket ts) rfl))))
    exact run_bind ran (runs ready depth bound (by omega) (by omega))

theorem Runs.access {object key e : Expr} (inside : Derives Plain (.key key) ts (.rightBracket :: mid))
    (runsKey : Runs ts (.rightBracket :: mid) (.key key)) (runs : Runs mid rest (.suffixes (.access object key) e)) :
    Runs (.leftBracket :: ts) rest (.suffixes object e) := by
  intro ready depth bound enough room
  have shorter := inside.length_le
  simp only [Phrase.least, List.length_cons] at shorter enough room
  have noQuestion : ts.head? ≠ some .question := by
    generalize closing : Token.rightBracket :: mid = behind at inside
    cases inside with
    | name _ read =>
      rintro ⟨⟩
      cases read
    | computed _ derived => exact derived.head_ne rfl
  cases bound with
  | zero => omega
  | succ bound =>
    have ranKey := runsKey rfl depth (by omega)
    have ran : suffix (expressionWithin depth) depth object (.ofTokens (.leftBracket :: ts)) =
        .ok (some (.access object key)) (.ofTokens mid) :=
      run_yes rfl (run_bind (run_advance _ _) (run_no noQuestion (run_bind ranKey
        (run_bind (run_expect .rightBracket mid) rfl))))
    exact run_bind ran (runs ready depth bound (by omega) (by omega))

theorem Runs.member {object e : Expr} {name : String} (others : Derives Plain (.suffixes (.member object name) e) ts rest)
    (runs : Runs ts rest (.suffixes (.member object name) e)) :
    Runs (.dot :: .identifier name :: ts) rest (.suffixes object e) := by
  intro ready depth bound enough room
  simp only [List.length_cons] at enough room
  have noParen : ts.head? ≠ some .leftParen := by
    cases others with
    | bare => exact fun first => by cases ready.ended _ first
    | existence | access | member | call => rintro ⟨⟩
  cases bound with
  | zero => omega
  | succ bound =>
    have ran : suffix (expressionWithin depth) depth object (.ofTokens (.dot :: .identifier name :: ts)) =
        .ok (some (.member object name)) (.ofTokens ts) :=
      run_no (by rintro ⟨⟩) (run_yes rfl (run_bind (run_advance _ _) (run_bind (run_name _ name ts)
        (run_no noParen rfl))))
    exact run_bind ran (runs ready depth bound (by omega) (by omega))

theorem Runs.call {object e : Expr} {name : String} {args : List Expr}
    (given : Derives Plain (.list .rightParen args) ts (.rightParen :: mid))
    (runsArgs : Runs ts (.rightParen :: mid) (.list .rightParen args))
    (runs : Runs mid rest (.suffixes (.call object name args) e)) :
    Runs (.dot :: .identifier name :: .leftParen :: ts) rest (.suffixes object e) := by
  intro ready depth bound enough room
  have shorter := given.length_le
  simp only [Phrase.least, List.length_cons] at shorter enough room
  cases bound with
  | zero => omega
  | succ bound =>
    have ranArgs := runsArgs rfl (by decide) depth depth [] (by omega) (by omega)
    have ranList : list (expressionWithin depth) depth .rightParen (.ofTokens ts) = .ok args (.ofTokens mid) :=
      run_bind ranArgs (run_bind (run_expect .rightParen mid) rfl)
    have ran : suffix (expressionWithin depth) depth object
        (.ofTokens (.dot :: .identifier name :: .leftParen :: ts)) =
          .ok (some (.call object name args)) (.ofTokens mid) :=
      run_no (by rintro ⟨⟩) (run_yes rfl (run_bind (run_advance _ _) (run_bind (run_name _ name _)
        (run_yes rfl (run_bind (run_advance _ _) (run_bind ranList rfl))))))
    exact run_bind ran (runs ready depth bound (by omega) (by omega))

/-! ### Keys and primaries -/

theorem Runs.name {t : Token} {name : String} (rest : List Token) (read : name? t = some name) :
    Runs (t :: rest) rest (.key (.key name)) := by
  intro _ depth _
  unfold accessKey
  cases t with
  | identifier | string =>
    cases read
    exact run_bind (a := some _) rfl (run_bind (run_advance none rest) rfl)
  | _ => cases read

theorem Runs.computed {e : Expr} (other : ∀ s, ts.head? ≠ some (.string s))
    (derived : Derives Plain (.level .expression e) ts rest) (runs : Runs ts rest (.level .expression e)) :
    Runs ts rest (.key e) := by
  intro closes depth enough
  rw [cons_of_head? closes] at runs ⊢
  have ran := runs.expression (.delimiter rfl _) (.inl (.delimiter _ rfl _)) depth enough
  have noIdentifier (name : String) : ts.head? ≠ some (.identifier name) := derived.head_ne rfl
  unfold accessKey
  refine run_bind (a := ts.head?) rfl ?_
  have back : putBack ts.head? ⟨none, .ofTokens ts.tail⟩ = .ok () (.ofTokens ts) := rfl
  cases first : ts.head? with
  | none => exact run_bind (first ▸ back) ran
  | some t =>
    cases t with
    | identifier name => exact absurd first (noIdentifier name)
    | string s => exact absurd first (other s)
    | _ => exact run_bind (first ▸ back) ran

theorem Runs.atom {t : Token} {e : Expr} (rest : List Token) (read : atom? t = some e) :
    Runs (t :: rest) rest (.primary e) := by
  intro _ depth _
  have ran : primaryOf (expressionWithin depth) (operandWithin depth) depth (some t) ⟨none, .ofTokens rest⟩ =
      .ok e (.ofTokens rest) := by
    cases t <;> first | cases read; exact run_bind (run_advance none rest) rfl | cases read
  exact run_bind (a := some t) rfl ran

theorem Runs.binding (name : String) (rest : List Token) :
    Runs (.atSign :: .identifier name :: rest) rest (.primary (.binding name)) := by
  intro noArrow depth _
  have ran : bindingOrLambda (expressionWithin depth) (.ofTokens (.identifier name :: rest)) =
      .ok (.binding name) (.ofTokens rest) :=
    run_bind (run_name _ name rest) (run_no noArrow rfl)
  exact run_bind (a := some .atSign) rfl (run_bind (run_advance none _) ran)

theorem Runs.group {e : Expr} (runs : Runs ts (.rightParen :: rest) (.level .expression e)) :
    Runs (.leftParen :: ts) rest (.primary e) := by
  intro _ depth enough
  simp only [List.length_cons] at enough
  have inside := runs.expression (.delimiter rfl _) (.inl (.delimiter _ rfl _)) depth (by omega)
  have ran : primaryOf (expressionWithin depth) (operandWithin depth) depth (some .leftParen) ⟨none, .ofTokens ts⟩ =
      .ok e (.ofTokens rest) :=
    run_bind (run_advance none ts) (run_bind inside (run_bind (run_expect .rightParen rest) rfl))
  exact run_bind (a := some .leftParen) rfl ran

theorem Runs.object {ps : List (String × Expr)} (runs : Runs ts (.rightBrace :: rest) (.pairs ps)) :
    Runs (.leftBrace :: ts) rest (.primary (.object ps)) := by
  intro _ depth enough
  simp only [List.length_cons] at enough
  have ranPairs : pairs (expressionWithin depth) depth (.ofTokens ts) = .ok ps (.ofTokens rest) :=
    run_bind (runs depth depth [] (by omega) (by omega)) (run_bind (run_expect .rightBrace rest) rfl)
  have ran : primaryOf (expressionWithin depth) (operandWithin depth) depth (some .leftBrace) ⟨none, .ofTokens ts⟩ =
      .ok (.object ps) (.ofTokens rest) :=
    run_bind (run_advance none ts) (run_bind ranPairs rfl)
  exact run_bind (a := some .leftBrace) rfl ran

theorem Runs.array {items : List Expr} (runs : Runs ts (.rightBracket :: rest) (.list .rightBracket items)) :
    Runs (.leftBracket :: ts) rest (.primary (.array items)) := by
  intro _ depth enough
  simp only [List.length_cons] at enough
  have ranItems := runs rfl (by decide) depth depth [] (by omega) (by omega)
  have ranList : list (expressionWithin depth) depth .rightBracket (.ofTokens ts) = .ok items (.ofTokens rest) :=
    run_bind ranItems (run_bind (run_expect .rightBracket rest) rfl)
  have ran : primaryOf (expressionWithin depth) (operandWithin depth) depth (some .leftBracket)
      ⟨none, .ofTokens ts⟩ = .ok (.array items) (.ofTokens rest) :=
    run_bind (run_advance none ts) (run_bind ranList rfl)
  exact run_bind (a := some .leftBracket) rfl ran

/-! ### Elements of lists -/

theorem Runs.noItem (close : Token) (rest : List Token) :
    Runs (close :: rest) (close :: rest) (.list close []) := by
  intro _ _ depth bound prior _ room
  rw [List.append_nil]
  cases bound with
  | zero => omega
  | succ bound => exact run_closed rest

theorem Runs.lastItem {close : Token} {e : Expr} (item : Derives Plain (.level .expression e) ts (close :: rest))
    (runs : Runs ts (close :: rest) (.level .expression e)) : Runs ts (close :: rest) (.list close [e]) := by
  intro delimiter _ depth bound prior enough room
  have shorter := item.length_le
  simp only [Phrase.least, List.length_cons] at shorter
  have ran := runs.expression (.delimiter delimiter rest) (.inl (.delimiter _ delimiter rest)) depth enough
  have opening : ts.head? ≠ some close := item.head_ne (opens_of_delimiter delimiter)
  rcases bound with _ | _ | bound
  · omega
  · omega
  · exact run_bind (run_element opening ran (run_separator_close rest)) (run_closed rest)

theorem Runs.item {close : Token} {e : Expr} {items : List Expr}
    (item : Derives Plain (.level .expression e) ts (.comma :: mid))
    (runsItem : Runs ts (.comma :: mid) (.level .expression e)) (runs : Runs mid rest (.list close items)) :
    Runs ts rest (.list close (e :: items)) := by
  intro delimiter notComma depth bound prior enough room
  have shorter := item.length_le
  simp only [Phrase.least, List.length_cons] at shorter
  have ran := runsItem.expression (.delimiter rfl mid) (.inl (.delimiter _ rfl mid)) depth enough
  have opening : ts.head? ≠ some close := item.head_ne (opens_of_delimiter delimiter)
  have others := runs delimiter notComma depth (bound - 1) (prior ++ [e]) (by omega) (by omega)
  rw [List.append_assoc, List.singleton_append] at others
  cases bound with
  | zero => omega
  | succ bound => exact run_bind (run_element opening ran (run_separator_comma notComma mid)) others

/-- A pair is read as its key, its colon and its value. -/
theorem run_pair {t : Token} {key : String} {e : Expr} {depth : Nat} (read : name? t = some key)
    (ran : expressionWithin depth (.ofTokens ts) = .ok e (.ofTokens rest)) :
    (do let key ← pairKey; let e ← expressionWithin depth; return (key, e)) (.ofTokens (t :: .colon :: ts)) =
      .ok (key, e) (.ofTokens rest) := by
  have ranKey : pairKey (.ofTokens (t :: .colon :: ts)) = .ok key (.ofTokens ts) := by
    unfold pairKey
    cases t with
    | identifier | string =>
      cases read
      exact run_bind (a := some _) rfl (run_bind (run_advance none _) (run_bind (run_expect .colon ts) rfl))
    | _ => cases read
  exact run_bind ranKey (run_bind ran rfl)

theorem noBrace_of_name? {t : Token} {key : String} (read : name? t = some key) (ts : List Token) :
    (t :: ts).head? ≠ some .rightBrace := by
  rintro ⟨⟩
  cases read

theorem Runs.noPair (rest : List Token) : Runs (.rightBrace :: rest) (.rightBrace :: rest) (.pairs []) := by
  intro depth bound prior _ room
  rw [List.append_nil, pair_eq_element]
  cases bound with
  | zero => omega
  | succ bound => exact run_closed rest

theorem Runs.lastPair {t : Token} {key : String} {e : Expr} (read : name? t = some key)
    (runs : Runs ts (.rightBrace :: rest) (.level .expression e)) :
    Runs (t :: .colon :: ts) (.rightBrace :: rest) (.pairs [(key, e)]) := by
  intro depth bound prior enough room
  simp only [List.length_cons] at enough room
  have ran := run_pair read (runs.expression (.delimiter rfl rest) (.inl (.delimiter _ rfl rest))
    depth (by omega))
  rw [pair_eq_element]
  rcases bound with _ | _ | bound
  · omega
  · omega
  · exact run_bind (run_element (noBrace_of_name? read _) ran (run_separator_close rest)) (run_closed rest)

theorem Runs.pair {t : Token} {key : String} {e : Expr} {ps : List (String × Expr)} (read : name? t = some key)
    (value : Derives Plain (.level .expression e) ts (.comma :: mid))
    (runsValue : Runs ts (.comma :: mid) (.level .expression e)) (runs : Runs mid rest (.pairs ps)) :
    Runs (t :: .colon :: ts) rest (.pairs ((key, e) :: ps)) := by
  intro depth bound prior enough room
  have shorter := value.length_le
  simp only [Phrase.least, List.length_cons] at shorter enough room
  have ran := run_pair read (runsValue.expression (.delimiter rfl mid) (.inl (.delimiter _ rfl mid))
    depth (by omega))
  have others := runs depth (bound - 1) (prior ++ [(key, e)]) (by omega) (by omega)
  rw [List.append_assoc, List.singleton_append] at others
  rw [pair_eq_element] at others ⊢
  cases bound with
  | zero => omega
  | succ bound =>
    exact run_bind (run_element (noBrace_of_name? read _) ran (run_separator_comma (by decide) mid)) others

end

/-- The parser reads every phrase as it is derived. -/
theorem runs_of_derives {φ : Phrase} {ts rest : List Token} (derived : Derives Greedy φ ts rest) : Runs ts rest φ := by
  induction derived with
  | series head others runsHead runsOthers => exact .series head.plain others.plain runsHead runsOthers
  | done s e rest => exact .done s e rest
  | more read operand others runsOperand runsOthers =>
    exact .more read operand.plain others.plain runsOperand runsOthers
  | alone sum runs => exact .alone sum.plain runs
  | compared first read second runsFirst runsSecond =>
    exact .compared first.plain read second.plain runsFirst runsSecond
  | negative _ runs => exact .negative runs
  | lambda param greedy _ runs => exact .lambda param greedy runs
  | suffixed primary others runsPrimary runsOthers =>
    exact .suffixed primary.plain others.plain runsPrimary runsOthers
  | bare e rest => exact .bare e rest
  | existence _ runs => exact .existence runs
  | access inside _ runsKey runs => exact .access inside.plain runsKey runs
  | member others runs => exact .member others.plain runs
  | call given _ runsArgs runs => exact .call given.plain runsArgs runs
  | name _ read => exact .name _ read
  | computed other derived runs => exact .computed other derived.plain runs
  | atom _ read => exact .atom _ read
  | binding name rest => exact .binding name rest
  | group _ runs => exact .group runs
  | object _ runs => exact .object runs
  | array _ runs => exact .array runs
  | noItem close rest => exact .noItem close rest
  | lastItem item runs => exact .lastItem item.plain runs
  | item item _ runsItem runs => exact .item item.plain runsItem runs
  | noPair => exact .noPair _
  | lastPair read _ runs => exact .lastPair read runs
  | pair read value _ runsValue runs => exact .pair read value.plain runsValue runs

end Parser

namespace Expr

open DocChain.Parser

/-- A text whose tokens are derived as a whole, with longest bodies of lambdas, is parsed so. -/
theorem parse_of_derives {text : String} {ts : List Token} {e : Expr} (lexed : tokenize text = .ok ts)
    (derived : Derives Greedy (.level .expression e) ts []) : Expr.parse text = .ok e := by
  have stream : TokenStream.ofText text = .ofTokens ts := TokenStream.eq_ofTokens lexed
  have started : Parser.start (.ofText text) = .ok (.ofTokens ts) := by
    rw [stream]
    cases ts <;> rfl
  have length : (ParserState.ofTokens ts).upcoming.length = ts.length - 1 := by
    rw [ParserState.ofTokens, TokenStream.length_ofTokens, List.length_tail]
  have read : expression (.ofTokens ts) = .ok e (.ofTokens []) :=
    (runs_of_derives derived).expression .nil (.inl (.nil _)) _ (by omega)
  have whole : Parser.whole (.ofTokens ts) = .ok e (.ofTokens []) :=
    run_bind read (run_bind (a := ()) (m := .ofTokens []) rfl rfl)
  simp only [Expr.parse, started, bind, Except.bind, whole]

/-- The parser implements the grammar: what it answers is derived from all tokens of the text, and what is
derived from them, with longest bodies of lambdas, it answers. -/
theorem parse_implements_grammar (text : String) :
    (∀ e, Expr.parse text = .ok e →
      ∃ ts, tokenize text = .ok ts ∧ Derives Plain (.level .expression e) ts []) ∧
    (∀ ts e, tokenize text = .ok ts → Derives Greedy (.level .expression e) ts [] →
      Expr.parse text = .ok e) :=
  ⟨fun _ => derives_of_parse, fun _ _ => parse_of_derives⟩

/-- A sign, a member, a comparison, and a lambda in a call. -/
theorem parse_implements_grammar_negative :
    let text := "$.where(@p => -@p.n < 2)"
    let n := Expr.member (.binding "p") "n"
    let e := Expr.call .root "where" [.lambda "p" (.binary (.comparison .less)
      (.binary (.arithmetic .subtract) (.integer 0) n) (.integer 2))]
    Expr.parse text = .ok e ∧ ∃ ts, tokenize text = .ok ts ∧ Derives Plain (.level .expression e) ts [] := by
  intro text n e
  have read : (tokenize text).toOption = some [.dollar, .dot, .identifier "where", .leftParen, .atSign,
      .identifier "p", .arrow, .minus, .atSign, .identifier "p", .dot, .identifier "n", .less, .integer 2,
      .rightParen] := by
    decide +kernel
  have two : Derives Greedy (.level (.series .sum) (.integer 2)) [.integer 2, .rightParen] [.rightParen] :=
    Derives.ofOperand (.suffixed (.atom _ rfl) (.bare ..)) _
  have negative : Derives Greedy (.level (.series .sum) (.binary (.arithmetic .subtract) (.integer 0) n))
      [.minus, .atSign, .identifier "p", .dot, .identifier "n", .less, .integer 2, .rightParen]
      [.less, .integer 2, .rightParen] :=
    Derives.ofOperand (.negative (.suffixed (.binding "p" _) (.member (.bare ..)))) _
  have body : Derives Greedy (.level .expression _) _ [.rightParen] :=
    .series (.series (.compared negative rfl two) (.done ..)) (.done ..)
  have greedy (ts : List Token) : Greedy ts [.rightParen] := by
    rintro _ ⟨⟩ ⟨⟩
  have derived : Derives Greedy (.level .expression e) _ [] :=
    Derives.ofOperand (.suffixed (.atom (t := .dollar) _ rfl)
      (.call (.lastItem (Derives.ofOperand (.lambda "p" (greedy _) body) _)) (.bare ..))) _
  obtain ⟨sound, complete⟩ := parse_implements_grammar text
  have parsed : Expr.parse text = .ok e := by
    cases lexed : tokenize text with
    | error err =>
      rw [lexed] at read
      cases read
    | ok ts =>
      rw [lexed] at read
      cases read
      exact complete _ e lexed derived
  exact ⟨parsed, sound e parsed⟩

end Expr

end DocChain
