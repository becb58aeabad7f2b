import DocChain.Expr.Parser

/-!
# The grammar of chain text

`Derives` is the grammar over tokens, as a relation between the tokens ahead, what they denote and the
tokens behind it. The levels bind from `or` to the sign; all but the comparison repeat, from the left.
Only the body of a lambda is ambiguous, since an operator behind it can join the body or the lambda;
`Greedy` asks for a longest body there.
-/

namespace DocChain.Grammar

/-! ### Levels -/

/-- The levels on which operands are joined from the left. -/
inductive Series where
  | disjunction | conjunction | sum | product
deriving DecidableEq

inductive Level where
  | series (s : Series)
  | comparison
  | operand
deriving DecidableEq

namespace Series

def op? : Series → Token → Option BinaryOp
  | disjunction => Parser.orOp?
  | conjunction => Parser.andOp?
  | sum => Parser.sumOp?
  | product => Parser.productOp?

/-- What a level joins. -/
def item : Series → Level
  | disjunction => .series .conjunction
  | conjunction => .comparison
  | sum => .series .product
  | product => .operand

end Series

namespace Level

/-- An expression of any kind. -/
abbrev expression : Level :=
  .series .disjunction

def rank : Level → Nat
  | series .disjunction => 0
  | series .conjunction => 1
  | comparison => 2
  | series .sum => 3
  | series .product => 4
  | operand => 5

end Level

/-- The level that an operator belongs to. -/
def level? : Token → Option Level
  | .or => some (.series .disjunction)
  | .and => some (.series .conjunction)
  | .equal | .notEqual | .less | .greater | .lessEqual | .greaterEqual => some .comparison
  | .plus | .minus => some (.series .sum)
  | .star | .slash | .percent => some (.series .product)
  | _ => none

theorem rank_item (s : Series) : s.item.rank = (Level.series s).rank + 1 := by
  cases s <;> rfl

theorem level?_of_op? {s : Series} {t : Token} {op : BinaryOp} (read : s.op? t = some op) :
    level? t = some (.series s) := by
  cases s <;> cases t <;> first | rfl | cases read

theorem level?_of_comparisonOp? {t : Token} {op : BinaryOp} (read : Parser.comparisonOp? t = some op) :
    level? t = some .comparison := by
  cases t <;> first | rfl | cases read

/-! ### Derivations -/

/-- What tokens denote. -/
inductive Phrase where
  | level (ℓ : Level) (e : Expr)
  /-- Operators of a level with their operands behind `left`, which make it `e`. -/
  | tail (s : Series) (left e : Expr)
  /-- Suffixes behind an object, which make it `e`. -/
  | suffixes (object e : Expr)
  | primary (e : Expr)
  /-- What stands between the brackets of an access. -/
  | key (e : Expr)
  /-- Items up to a closing token, which stays. -/
  | list (close : Token) (items : List Expr)
  | pairs (ps : List (String × Expr))

/-- The expression that a token is by itself. -/
def atom? : Token → Option Expr
  | .float x => some (.float x)
  | .integer n => some (.integer n)
  | .string s => some (.string s)
  | .boolean b => some (.boolean b)
  | .null => some .null
  | .absent => some .absent
  | .dollar => some .root
  | .collection name => some (.collection name)
  | _ => none

/-- The name of a field between brackets, or of a key in an object. -/
def name? : Token → Option String
  | .identifier name | .string name => some name
  | _ => none

/-- The grammar: which phrase the tokens `ts` have in front of `rest`. Of lambdas only those are derived
whose body is allowed to end where it does. -/
inductive Derives (Allowed : List Token → List Token → Prop) : Phrase → List Token → List Token → Prop where
  | series {s : Series} {first e : Expr} {ts mid rest : List Token}
      (head : Derives Allowed (.level s.item first) ts mid) (others : Derives Allowed (.tail s first e) mid rest) :
      Derives Allowed (.level (.series s) e) ts rest
  | done (s : Series) (e : Expr) (rest : List Token) : Derives Allowed (.tail s e e) rest rest
  | more {s : Series} {left right e : Expr} {t : Token} {op : BinaryOp} {ts mid rest : List Token}
      (read : s.op? t = some op) (operand : Derives Allowed (.level s.item right) ts mid)
      (others : Derives Allowed (.tail s (.binary op left right) e) mid rest) :
      Derives Allowed (.tail s left e) (t :: ts) rest
  | alone {e : Expr} {ts rest : List Token} (sum : Derives Allowed (.level (.series .sum) e) ts rest) :
      Derives Allowed (.level .comparison e) ts rest
  | compared {left right : Expr} {t : Token} {op : BinaryOp} {ts mid rest : List Token}
      (first : Derives Allowed (.level (.series .sum) left) ts (t :: mid))
      (read : Parser.comparisonOp? t = some op)
      (second : Derives Allowed (.level (.series .sum) right) mid rest) :
      Derives Allowed (.level .comparison (.binary op left right)) ts rest
  | negative {e : Expr} {ts rest : List Token} (operand : Derives Allowed (.level .operand e) ts rest) :
      Derives Allowed (.level .operand (.binary (.arithmetic .subtract) (.integer 0) e)) (.minus :: ts) rest
  | lambda (param : String) {body : Expr} {ts rest : List Token} (allowed : Allowed ts rest)
      (derived : Derives Allowed (.level .expression body) ts rest) :
      Derives Allowed (.level .operand (.lambda param body)) (.atSign :: .identifier param :: .arrow :: ts) rest
  | suffixed {object e : Expr} {ts mid rest : List Token} (primary : Derives Allowed (.primary object) ts mid)
      (others : Derives Allowed (.suffixes object e) mid rest) : Derives Allowed (.level .operand e) ts rest
  | bare (e : Expr) (rest : List Token) : Derives Allowed (.suffixes e e) rest rest
  | existence {object e : Expr} {ts rest : List Token}
      (others : Derives Allowed (.suffixes (.existence object) e) ts rest) :
      Derives Allowed (.suffixes object e) (.leftBracket :: .question :: .rightBracket :: ts) rest
  | access {object key e : Expr} {ts mid rest : List Token}
      (inside : Derives Allowed (.key key) ts (.rightBracket :: mid))
      (others : Derives Allowed (.suffixes (.access object key) e) mid rest) :
      Derives Allowed (.suffixes object e) (.leftBracket :: ts) rest
  | member {object e : Expr} {name : String} {ts rest : List Token}
      (others : Derives Allowed (.suffixes (.member object name) e) ts rest) :
      Derives Allowed (.suffixes object e) (.dot :: .identifier name :: ts) rest
  | call {object e : Expr} {name : String} {args : List Expr} {ts mid rest : List Token}
      (given : Derives Allowed (.list .rightParen args) ts (.rightParen :: mid))
      (others : Derives Allowed (.suffixes (.call object name args) e) mid rest) :
      Derives Allowed (.suffixes object e) (.dot :: .identifier name :: .leftParen :: ts) rest
  | name {t : Token} {name : String} (rest : List Token) (read : name? t = some name) :
      Derives Allowed (.key (.key name)) (t :: rest) rest
  | computed {e : Expr} {ts rest : List Token} (other : ∀ s, ts.head? ≠ some (.string s))
      (derived : Derives Allowed (.level .expression e) ts rest) : Derives Allowed (.key e) ts rest
  | atom {t : Token} {e : Expr} (rest : List Token) (read : atom? t = some e) :
      Derives Allowed (.primary e) (t :: rest) rest
  | binding (name : String) (rest : List Token) :
      Derives Allowed (.primary (.binding name)) (.atSign :: .identifier name :: rest) rest
  | group {e : Expr} {ts rest : List Token}
      (inside : Derives Allowed (.level .expression e) ts (.rightParen :: rest)) :
      Derives Allowed (.primary e) (.leftParen :: ts) rest
  | object {ps : List (String × Expr)} {ts rest : List Token}
      (inside : Derives Allowed (.pairs ps) ts (.rightBrace :: rest)) :
      Derives Allowed (.primary (.object ps)) (.leftBrace :: ts) rest
  | array {items : List Expr} {ts rest : List Token}
      (inside : Derives Allowed (.list .rightBracket items) ts (.rightBracket :: rest)) :
      Derives Allowed (.primary (.array items)) (.leftBracket :: ts) rest
  | noItem (close : Token) (rest : List Token) : Derives Allowed (.list close []) (close :: rest) (close :: rest)
  | lastItem {close : Token} {e : Expr} {ts rest : List Token}
      (item : Derives Allowed (.level .expression e) ts (close :: rest)) :
      Derives Allowed (.list close [e]) ts (close :: rest)
  | item {close : Token} {e : Expr} {items : List Expr} {ts mid rest : List Token}
      (item : Derives Allowed (.level .expression e) ts (.comma :: mid))
      (others : Derives Allowed (.list close items) mid rest) : Derives Allowed (.list close (e :: items)) ts rest
  | noPair (rest : List Token) : Derives Allowed (.pairs []) (.rightBrace :: rest) (.rightBrace :: rest)
  | lastPair {t : Token} {key : String} {e : Expr} {ts rest : List Token} (read : name? t = some key)
      (value : Derives Allowed (.level .expression e) ts (.rightBrace :: rest)) :
      Derives Allowed (.pairs [(key, e)]) (t :: .colon :: ts) (.rightBrace :: rest)
  | pair {t : Token} {key : String} {e : Expr} {ps : List (String × Expr)} {ts mid rest : List Token}
      (read : name? t = some key) (value : Derives Allowed (.level .expression e) ts (.comma :: mid))
      (others : Derives Allowed (.pairs ps) mid rest) :
      Derives Allowed (.pairs ((key, e) :: ps)) (t :: .colon :: ts) rest

/-- The whole grammar: the body of a lambda can end anywhere. -/
def Plain (_ _ : List Token) : Prop :=
  True

/-- Whether no expression takes more of `ts` than up to `rest`, if an operator follows there. Where none
does, nothing could be added. -/
def Greedy (ts rest : List Token) : Prop :=
  ∀ t ∈ rest.head?, (level? t).isSome →
    ∀ e rest', Derives Plain (.level .expression e) ts rest' → rest.length ≤ rest'.length

section
variable {Allowed : List Token → List Token → Prop} {φ : Phrase} {ts rest : List Token}

theorem Derives.plain (derived : Derives Allowed φ ts rest) : Derives Plain φ ts rest := by
  induction derived with
  | series _ _ first others => exact .series first others
  | done => exact .done ..
  | more read _ _ operand others => exact .more read operand others
  | alone _ sum => exact .alone sum
  | compared _ read _ first second => exact .compared first read second
  | negative _ operand => exact .negative operand
  | lambda param _ _ body => exact .lambda param trivial body
  | suffixed _ _ primary others => exact .suffixed primary others
  | bare => exact .bare ..
  | existence _ others => exact .existence others
  | access _ _ inside others => exact .access inside others
  | member _ others => exact .member others
  | call _ _ given others => exact .call given others
  | name _ read => exact .name _ read
  | computed other _ e => exact .computed other e
  | atom _ read => exact .atom _ read
  | binding => exact .binding ..
  | group _ inside => exact .group inside
  | object _ inside => exact .object inside
  | array _ inside => exact .array inside
  | noItem => exact .noItem ..
  | lastItem _ item => exact .lastItem item
  | item _ _ item others => exact .item item others
  | noPair => exact .noPair _
  | lastPair read _ value => exact .lastPair read value
  | pair read _ _ value others => exact .pair read value others

/-- An operand is an expression of every level. -/
theorem Derives.ofOperand {e : Expr} (operand : Derives Allowed (.level .operand e) ts rest) (ℓ : Level) :
    Derives Allowed (.level ℓ e) ts rest := by
  have product : Derives Allowed (.level (.series .product) e) ts rest := .series operand (.done ..)
  have sum : Derives Allowed (.level (.series .sum) e) ts rest := .series product (.done ..)
  have conjunction : Derives Allowed (.level (.series .conjunction) e) ts rest := .series (.alone sum) (.done ..)
  rcases ℓ with s | _ | _
  · cases s with
    | disjunction => exact .series conjunction (.done ..)
    | conjunction => exact conjunction
    | sum => exact sum
    | product => exact product
  · exact .alone sum
  · exact operand

/-! ### Lengths -/

/-- The least number of tokens of a phrase. -/
def Phrase.least : Phrase → Nat
  | .tail .. | .suffixes .. | .list .. | .pairs _ => 0
  | _ => 1

theorem Derives.length_le (derived : Derives Allowed φ ts rest) : rest.length + φ.least ≤ ts.length := by
  induction derived <;> simp only [Phrase.least, List.length_cons] at * <;> omega

end

end DocChain.Grammar
