import DocChain.Proofs.ParserCompleteness

/-!
# How far the bodies of lambdas extend

A body ends where no level of operators goes on, and none of the levels around the lambda can go on there
either. The one exception is the comparison, which is not repeated: behind a body that ends in a comparison,
another one takes the whole lambda as its left operand. Parentheses end a body anywhere, so the texts here have
none.
-/

namespace DocChain

open Grammar

/-! ### Expressions and what they are made of -/

namespace Expr

/-- What an expression is directly made of. -/
@[simp] def parts : Expr → List Expr
  | access o k => [o, k]
  | member o _ => [o]
  | existence o => [o]
  | binary _ left right => [left, right]
  | call o _ args => o :: args
  | lambda _ body => [body]
  | object pairs => pairs.map Prod.snd
  | array items => items
  | _ => []

mutual

/-- An expression and all that it is made of, at any depth. -/
def nodes : Expr → List Expr
  | access o k => access o k :: (o.nodes ++ k.nodes)
  | member o name => member o name :: o.nodes
  | existence o => existence o :: o.nodes
  | binary op left right => binary op left right :: (left.nodes ++ right.nodes)
  | call o method args => call o method args :: (o.nodes ++ itemNodes args)
  | lambda param body => lambda param body :: body.nodes
  | object pairs => object pairs :: pairNodes pairs
  | array items => array items :: itemNodes items
  | e => [e]

def itemNodes : List Expr → List Expr
  | [] => []
  | e :: items => e.nodes ++ itemNodes items

def pairNodes : List (String × Expr) → List Expr
  | [] => []
  | (_, e) :: pairs => e.nodes ++ pairNodes pairs

end

theorem mem_itemNodes_iff {items : List Expr} {node : Expr} :
    node ∈ itemNodes items ↔ ∃ item ∈ items, node ∈ item.nodes := by
  induction items with
  | nil => simp [itemNodes]
  | cons item items ih => simp [itemNodes, ih]

theorem mem_pairNodes_iff {pairs : List (String × Expr)} {node : Expr} :
    node ∈ pairNodes pairs ↔ ∃ value ∈ pairs.map Prod.snd, node ∈ value.nodes := by
  induction pairs with
  | nil => simp [pairNodes]
  | cons pair pairs ih => simp [pairNodes, ih]

theorem mem_nodes_iff {e node : Expr} : node ∈ e.nodes ↔ node = e ∨ ∃ part ∈ e.parts, node ∈ part.nodes := by
  cases e <;> simp [nodes, mem_itemNodes_iff, mem_pairNodes_iff]

/-- What an operator or a suffix has on its left. -/
@[simp] def left? : Expr → Option Expr
  | binary _ left _ => some left
  | access o _ | member o _ | existence o | call o _ _ => some o
  | _ => none

/-- Whether a comparison could not go on behind an expression, since it ends in one. -/
def endsInComparison : Expr → Bool
  | binary (.comparison _) _ _ => true
  | binary (.connective _) _ right => right.endsInComparison
  | _ => false

/-- Whether the bodies of lambdas extend as far as possible: on the right of a lambda there is at most a
comparison, if its body ends in one already. -/
def BodiesExtend (e : Expr) : Prop :=
  ∀ node ∈ e.nodes, ∀ param body, node.left? = some (.lambda param body) →
    ∃ c right, node = .binary (.comparison c) (.lambda param body) right ∧ body.endsInComparison = true

theorem bodiesExtend_iff {e : Expr} : e.BodiesExtend ↔
    (∀ param body, e.left? = some (.lambda param body) →
      ∃ c right, e = .binary (.comparison c) (.lambda param body) right ∧ body.endsInComparison = true) ∧
    ∀ part ∈ e.parts, part.BodiesExtend := by
  constructor
  · intro extend
    refine ⟨extend e (mem_nodes_iff.mpr (.inl rfl)), fun part member node inside => ?_⟩
    exact extend node (mem_nodes_iff.mpr (.inr ⟨part, member, inside⟩))
  · rintro ⟨own, parts⟩ node inside
    rcases mem_nodes_iff.mp inside with rfl | ⟨part, member, inside⟩
    · exact own
    · exact parts part member node inside

/-- Where no lambda is on the left, the parts decide. -/
theorem BodiesExtend.of_parts {e : Expr} (other : ∀ param body, e.left? ≠ some (.lambda param body))
    (parts : ∀ part ∈ e.parts, part.BodiesExtend) : e.BodiesExtend :=
  bodiesExtend_iff.mpr ⟨fun param body left => absurd left (other param body), parts⟩

end Expr

/-! ### What follows an expression -/

namespace Grammar

theorem level?_ne_of_op? {s : Series} {t : Token} (none : s.op? t = none) : level? t ≠ some (.series s) := by
  intro operator
  cases s <;> cases t <;> first | (cases none; done) | cases operator

theorem level?_ne_of_comparisonOp? {t : Token} (none : Parser.comparisonOp? t = none) :
    level? t ≠ some .comparison := by
  intro operator
  cases t <;> first | (cases none; done) | cases operator

theorem comparison_of_comparisonOp? {t : Token} {op : BinaryOp} (read : Parser.comparisonOp? t = some op) :
    ∃ c, op = .comparison c := by
  cases t <;> first | exact ⟨_, (Option.some.inj read).symm⟩ | cases read

theorem Level.rank_inj {ℓ ℓ' : Level} (same : ℓ.rank = ℓ'.rank) : ℓ = ℓ' := by
  rcases ℓ with (_ | _ | _ | _) | _ | _ <;> rcases ℓ' with (_ | _ | _ | _) | _ | _ <;> first | rfl | cases same

theorem Level.rank_next_le (ℓ : Level) : ℓ.next.rank ≤ ℓ.rank + 1 := by
  rcases ℓ with (_ | _ | _ | _) | _ | _ <;> decide

/-- A tighter level than another one is at least as tight as its operands. -/
theorem Level.next_tighter {ℓ ℓ' : Level} (tighter : ℓ.rank ≤ ℓ'.rank) (other : ℓ' ≠ ℓ) :
    ℓ.next.rank ≤ ℓ'.rank := by
  have apart : ℓ'.rank ≠ ℓ.rank := fun same => other (Level.rank_inj same)
  have next := ℓ.rank_next_le
  omega

theorem rank_lt_operand {t : Token} {ℓ : Level} (operator : level? t = some ℓ) : ℓ.rank < Level.operand.rank := by
  cases t <;> cases operator <;> decide

end Grammar

namespace Parser

open List (not_mem_of_not_mem_cons)

/-- What an expression of a level leaves behind: no suffix, and no operator of the level or of a tighter one
but a comparison that it could not take. -/
structure Follows (ℓ : Level) (e : Expr) (rest : List Token) : Prop where
  unsuffixed : Unsuffixed rest
  compared : ∀ t ∈ rest.head?, ∀ ℓ', level? t = some ℓ' → ℓ.rank ≤ ℓ'.rank →
    ℓ' = .comparison ∧ e.endsInComparison = true

/-- What is read in front of tokens without parentheses: bodies extend in it, and a lambda ends where its body
does. -/
structure Settled (e : Expr) (rest : List Token) : Prop where
  flat : .leftParen ∉ rest
  extend : e.BodiesExtend
  ends : ∀ param body, e = .lambda param body → Follows .expression body rest

/-- An expression of a level that is read from tokens without parentheses. -/
def Reaches (ℓ : Level) (ts : List Token) (e : Expr) (rest : List Token) : Prop :=
  .leftParen ∉ ts → Settled e rest ∧ Follows ℓ e rest

/-- Any answer that is read from tokens without parentheses. -/
def Yields {α : Type} (P : α → Prop) (ts : List Token) (a : α) (rest : List Token) : Prop :=
  .leftParen ∉ ts → .leftParen ∉ rest ∧ P a

namespace Settled

variable {e object left right : Expr} {ts rest : List Token}

theorem of_parts (flat : .leftParen ∉ rest) (plain : ∀ param body, e ≠ .lambda param body)
    (other : ∀ param body, e.left? ≠ some (.lambda param body)) (parts : ∀ part ∈ e.parts, part.BodiesExtend) :
    Settled e rest :=
  ⟨flat, .of_parts other parts, fun param body same => absurd same (plain param body)⟩

/-- Behind a lambda there is no suffix. -/
theorem suffixed (settled : Settled object ts) (follows : ¬ Unsuffixed ts) (left : e.left? = some object)
    (flat : .leftParen ∉ rest) (parts : ∀ part ∈ e.parts, part.BodiesExtend) : Settled e rest := by
  refine .of_parts flat ?_ ?_ parts
  · rintro param body rfl
    cases left
  · rintro param body same
    obtain rfl : object = .lambda param body := Option.some.inj (left.symm.trans same)
    exact follows (settled.ends param body rfl).unsuffixed

/-- An operator behind a lambda is a comparison that its body could not take. -/
theorem binary {t : Token} {ℓ : Level} {op : BinaryOp} (first : Settled left (t :: ts))
    (second : Settled right rest) (operator : level? t = some ℓ)
    (compares : ℓ = .comparison → ∃ c, op = .comparison c) : Settled (.binary op left right) rest := by
  refine ⟨second.flat, Expr.bodiesExtend_iff.mpr ⟨?_, ?_⟩, by simp⟩
  · rintro param body ⟨⟩
    obtain ⟨same, compared⟩ := (first.ends param body rfl).compared t rfl ℓ operator (Nat.zero_le _)
    obtain ⟨c, rfl⟩ := compares same
    exact ⟨c, right, rfl, compared⟩
  · simp only [Expr.parts, List.forall_mem_cons]
    exact ⟨first.extend, second.extend, by simp⟩

end Settled

/-! ### Operands -/

section
variable {ts rest : List Token} {e : Expr}

theorem Reaches.yields (reaches : Reaches .expression ts e rest) : Yields Expr.BodiesExtend ts e rest :=
  fun flat => ⟨(reaches flat).1.flat, (reaches flat).1.extend⟩

theorem yields_separated {α : Type} {close : Token} {Item : List Token → α → List Token → Prop} {P : α → Prop}
    (each : ∀ ts a rest, Item ts a rest → Yields P ts a rest) {as : List α}
    (separated : Separated close Item ts as rest) : Yields (fun as => ∀ a ∈ as, P a) ts as rest := by
  induction separated with
  | none => exact fun flat => ⟨flat, by simp⟩
  | last item =>
    intro flat
    obtain ⟨flat, holds⟩ := each _ _ _ item flat
    exact ⟨flat, by simpa using holds⟩
  | more item _ ih =>
    intro flat
    obtain ⟨flat, holds⟩ := each _ _ _ item flat
    obtain ⟨flat, others⟩ := ih (not_mem_of_not_mem_cons flat)
    exact ⟨flat, List.forall_mem_cons.mpr ⟨holds, others⟩⟩

theorem yields_list {close : Token} {items : List Expr}
    (separated : Separated close (Reaches .expression) ts items rest) :
    Yields (fun items => ∀ item ∈ items, item.BodiesExtend) ts items rest :=
  yields_separated (fun _ _ _ => Reaches.yields) separated

theorem yields_pairs {ps : List (String × Expr)}
    (separated : Separated .rightBrace (PairRule (Reaches .expression)) ts ps rest) :
    Yields (fun ps => ∀ pair ∈ ps, pair.2.BodiesExtend) ts ps rest := by
  refine yields_separated (P := fun pair => pair.2.BodiesExtend) ?_ separated
  rintro _ pair rest ⟨t, behind, _, rfl, reaches⟩ flat
  exact reaches.yields (not_mem_of_not_mem_cons (not_mem_of_not_mem_cons flat))

theorem yields_key (rule : KeyRule (Reaches .expression) ts e rest) : Yields Expr.BodiesExtend ts e rest := by
  cases rule with
  | name => exact fun flat => ⟨not_mem_of_not_mem_cons flat, .of_parts (by simp) (by simp)⟩
  | computed _ reaches => exact reaches.yields

theorem Settled.of_atom? {t : Token} (flat : .leftParen ∉ rest) (read : atom? t = some e) : Settled e rest := by
  cases t <;> cases read <;> exact .of_parts flat (by simp) (by simp) (by simp)

/-- A lambda ends where its body does, and there is no group, which could end a body anywhere. -/
theorem settles_primary (rule : PrimaryRule (Reaches .expression) (Reaches .operand) ts e rest)
    (flat : .leftParen ∉ ts) : Settled e rest := by
  cases rule with
  | atom _ read => exact .of_atom? (not_mem_of_not_mem_cons flat) read
  | binding => exact .of_parts (by simpa using flat) (by simp) (by simp) (by simp)
  | lambda reaches =>
    obtain ⟨settled, follows⟩ := reaches (by simpa using flat)
    refine ⟨settled.flat, .of_parts (by simp) (by simpa using settled.extend), ?_⟩
    rintro _ _ ⟨⟩
    exact follows
  | group => exact absurd List.mem_cons_self flat
  | negative reaches =>
    obtain ⟨settled, _⟩ := reaches (not_mem_of_not_mem_cons flat)
    have zero : (Expr.integer 0).BodiesExtend := .of_parts (by simp) (by simp)
    exact .of_parts settled.flat (by simp) (by simp) (by simpa using ⟨zero, settled.extend⟩)
  | object inside =>
    obtain ⟨flat, extend⟩ := yields_pairs inside (not_mem_of_not_mem_cons flat)
    exact .of_parts (not_mem_of_not_mem_cons flat) (by simp) (by simp) (List.forall_mem_map.mpr extend)
  | array inside =>
    obtain ⟨flat, extend⟩ := yields_list inside (not_mem_of_not_mem_cons flat)
    exact .of_parts (not_mem_of_not_mem_cons flat) (by simp) (by simp) (by simpa using extend)

theorem settles_suffix {object object' : Expr} (rule : SuffixRule (Reaches .expression) object ts object' rest)
    (settled : Settled object ts) : Settled object' rest := by
  cases rule with
  | existence =>
    have flat : .leftParen ∉ rest := by simpa using settled.flat
    exact settled.suffixed (fun unsuffixed => unsuffixed.1 rfl) rfl flat (by simpa using settled.extend)
  | access inside =>
    obtain ⟨flat, extend⟩ := yields_key inside (not_mem_of_not_mem_cons settled.flat)
    exact settled.suffixed (fun unsuffixed => unsuffixed.1 rfl) rfl (not_mem_of_not_mem_cons flat)
      (by simpa using ⟨settled.extend, extend⟩)
  | member =>
    have flat : .leftParen ∉ rest := by simpa using settled.flat
    exact settled.suffixed (fun unsuffixed => unsuffixed.2 rfl) rfl flat (by simpa using settled.extend)
  | call => exact absurd List.mem_cons_self (not_mem_of_not_mem_cons (not_mem_of_not_mem_cons settled.flat))

end

/-! ### Operators -/

/-- Where an operator of a level ends an operand, what follows it also follows the whole. -/
theorem Follows.joined {s : Series} {op : BinaryOp} {t : Token} {left right : Expr} {rest : List Token}
    (read : s.op? t = some op) (follows : Follows s.item right rest) :
    Follows s.item (.binary op left right) rest := by
  refine ⟨follows.unsuffixed, fun t' next ℓ operator tighter => ?_⟩
  obtain ⟨rfl, compared⟩ := follows.compared t' next ℓ operator tighter
  refine ⟨rfl, ?_⟩
  cases s with
  | disjunction | conjunction =>
    cases t <;> cases read
    exact compared
  | sum | product => simp [Series.item, Level.rank] at tighter

/-- What follows the operands of a level follows the level, if it has no operator there. -/
theorem Follows.of_next (ℓ : Level) {e : Expr} {rest : List Token} (follows : Follows ℓ.next e rest)
    (ends : ∀ t ∈ rest.head?, level? t ≠ some ℓ) : Follows ℓ e rest := by
  refine ⟨follows.unsuffixed, fun t next ℓ' operator tighter => ?_⟩
  refine follows.compared t next ℓ' operator (Level.next_tighter tighter ?_)
  rintro rfl
  exact ends t next operator

theorem reaches_series {operand : Parser Expr} (s : Series) (reads : Reads operand (Reaches s.item)) (bound : Nat) :
    Reads (leftAssociative s.op? operand bound) (Reaches (.series s)) := by
  have loop := Reads.iterate (P := fun left ts e rest =>
    Settled left ts → Follows s.item left ts → Settled e rest ∧ Follows (.series s) e rest)
    (reads_joined reads s.op?) ?_ ?_ bound
  · unfold leftAssociative
    refine (reads.bind loop).imp ?_
    rintro ts e rest ⟨first, mid, reaches, others⟩ flat
    obtain ⟨settled, follows⟩ := reaches flat
    exact others settled follows
  · rintro left ts rest ⟨rfl, ends⟩ settled follows
    exact ⟨settled, follows.of_next (.series s) fun t next =>
      level?_ne_of_op? (Option.bind_eq_none_iff.mp ends t next)⟩
  · rintro left _ e ts mid rest ⟨t, op, behind, right, rfl, read, reaches, rfl⟩ others settled _
    obtain ⟨settledRight, follows⟩ := reaches (not_mem_of_not_mem_cons settled.flat)
    exact others (settled.binary settledRight (level?_of_op? read) nofun) (follows.joined read)

theorem reaches_comparison {operand : Parser Expr} (reads : Reads operand (Reaches (.series .sum))) :
    Reads (comparison operand) (Reaches .comparison) := by
  unfold comparison
  refine (reads.bind fun left => (reads_joined reads comparisonOp? left).bind fun found =>
    Reads.pure (found.getD left)).imp ?_
  rintro ts _ rest ⟨left, mid, reaches, found, _, read, rfl, rfl⟩ flat
  obtain ⟨settled, follows⟩ := reaches flat
  cases found with
  | none =>
    obtain ⟨rfl, ends⟩ := read
    exact ⟨settled, follows.of_next .comparison fun t next =>
      level?_ne_of_comparisonOp? (Option.bind_eq_none_iff.mp ends t next)⟩
  | some e =>
    obtain ⟨t, op, behind, right, rfl, read, reachesRight, rfl⟩ := read
    obtain ⟨settledRight, followsRight⟩ := reachesRight (not_mem_of_not_mem_cons settled.flat)
    obtain ⟨c, rfl⟩ := comparison_of_comparisonOp? read
    refine ⟨settled.binary settledRight (level?_of_comparisonOp? read) fun _ => ⟨c, rfl⟩,
      followsRight.unsuffixed, fun t' next ℓ operator tighter => ⟨?_, rfl⟩⟩
    rcases Decidable.em (ℓ = .comparison) with same | other
    · exact same
    · exact (followsRight.compared t' next ℓ operator (Level.next_tighter tighter other)).1

theorem reaches_levels {operand : Parser Expr} (reads : Reads operand (Reaches .operand)) (bound : Nat) :
    Reads (levels operand bound) (Reaches .expression) := by
  have product := reaches_series .product reads bound
  have sum := reaches_series .sum product bound
  have conjunction := reaches_series .conjunction (reaches_comparison sum) bound
  exact reaches_series .disjunction conjunction bound

theorem reaches_within (depth : Nat) :
    Reads (operandWithin depth) (Reaches .operand) ∧ Reads (expressionWithin depth) (Reaches .expression) := by
  induction depth with
  | zero => exact ⟨reads_reject, reads_reject⟩
  | succ depth ih =>
    obtain ⟨readsOperand, reads⟩ := ih
    refine ⟨?_, reaches_levels readsOperand depth⟩
    have loop := Reads.iterate (P := fun object ts e rest => Settled object ts → Settled e rest ∧ Unsuffixed rest)
      (reads_suffix reads depth) ?_ ?_ depth
    · rw [operandWithin, ← bind_assoc]
      refine ((reads_primary reads readsOperand depth).bind loop).imp ?_
      rintro ts e rest ⟨object, mid, rule, others⟩ flat
      obtain ⟨settled, unsuffixed⟩ := others (settles_primary rule flat)
      refine ⟨settled, unsuffixed, fun t _ ℓ operator tighter => ?_⟩
      exact absurd tighter (Nat.not_le.mpr (rank_lt_operand operator))
    · rintro object ts rest ⟨rfl, unsuffixed⟩ settled
      exact ⟨settled, unsuffixed⟩
    · intro object object' e ts mid rest rule others settled
      exact others (settles_suffix rule settled)

end Parser

namespace Expr

/-- In what is parsed from a text without parentheses, no lambda stands left of an operator or a suffix, except
of a comparison that its body could not take, since it ends in one. -/
theorem lambda_bodies_extend (text : String) (ts : List Token) (e : Expr) (lexed : tokenize text = .ok ts)
    (flat : .leftParen ∉ ts) (parsed : Expr.parse text = .ok e) : e.BodiesExtend := by
  obtain ⟨ts', lexed', reaches⟩ := read_of_parse (fun depth => (Parser.reaches_within depth).2) parsed
  rw [lexed] at lexed'
  cases lexed'
  exact (reaches flat).1.extend

theorem lambda_bodies_extend_nested :
    let text := "[@p => @p.n == 1 == @q => @q[?] and 2, {k: @r => -@r.m * 2}]"
    let left := Expr.lambda "p" (.binary (.comparison .equal) (.member (.binding "p") "n") (.integer 1))
    let right := Expr.lambda "q" (.binary (.connective .and) (.existence (.binding "q")) (.integer 2))
    let double := Expr.binary (.arithmetic .multiply)
      (.binary (.arithmetic .subtract) (.integer 0) (.member (.binding "r") "m")) (.integer 2)
    let e := Expr.array [.binary (.comparison .equal) left right, .object [("k", .lambda "r" double)]]
    Expr.parse text = .ok e ∧ e.BodiesExtend := by
  intro text left right double e
  have stream : TokenStream.ofText text = .ofTokens [.leftBracket, .atSign, .identifier "p", .arrow, .atSign,
      .identifier "p", .dot, .identifier "n", .equal, .integer 1, .equal, .atSign, .identifier "q", .arrow, .atSign,
      .identifier "q", .leftBracket, .question, .rightBracket, .and, .integer 2, .comma, .leftBrace,
      .identifier "k", .colon, .atSign, .identifier "r", .arrow, .minus, .atSign, .identifier "r", .dot,
      .identifier "m", .star, .integer 2, .rightBrace, .rightBracket] := by
    decide +kernel
  have parsed : Expr.parse text = .ok e := by
    simp only [Expr.parse]
    rw [stream]
    rfl
  have lexed := (congrArg TokenStream.tokens stream).trans (TokenStream.tokens_ofTokens _)
  exact ⟨parsed, lambda_bodies_extend text _ e lexed (by simp) parsed⟩

/-- Three comparisons do not chain, but behind a lambda the second one takes it as an operand. -/
theorem lambda_is_compared :
    let compared := Expr.binary (.comparison .equal) (.integer 1) (.integer 2)
    (∃ ts, tokenize "@p => 1 == 2 == 3" = .ok ts ∧ .leftParen ∉ ts) ∧
    Expr.parse "@p => 1 == 2 == 3" = .ok (.binary (.comparison .equal) (.lambda "p" compared) (.integer 3)) ∧
    Expr.parse "1 == 2 == 3" = .error (.expected (.token none) (some .equal)) := by
  have lambda : TokenStream.ofText "@p => 1 == 2 == 3" = .ofTokens [.atSign, .identifier "p", .arrow, .integer 1,
      .equal, .integer 2, .equal, .integer 3] := by
    decide +kernel
  have plain : TokenStream.ofText "1 == 2 == 3" = .ofTokens [.integer 1, .equal, .integer 2, .equal,
      .integer 3] := by
    decide +kernel
  have lexed := (congrArg TokenStream.tokens lambda).trans (TokenStream.tokens_ofTokens _)
  refine ⟨⟨_, lexed, by simp⟩, ?_, ?_⟩
  · simp only [Expr.parse]
    rw [lambda]
    rfl
  · simp only [Expr.parse]
    rw [plain]
    rfl

end Expr

end DocChain
