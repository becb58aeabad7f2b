import DocChain.Expr.Text
import DocChain.Proofs.Grammar

/-!
# Printable trees

`isPrintable` tells the trees that their text determines, and `tokens` are the tokens of that text. They
are derived as the operand that was printed: an object with its suffixes is derived suffix by suffix, and
the body of a lambda ends where no operator follows.
-/

namespace DocChain

open Grammar

/-! ### Names and characters -/

/-- The names that are tokens of their own. -/
def keywords : List String :=
  ["and", "or", "true", "false", "null", "absent"]

/-- Whether a text has the shape of a name; keywords have it too. -/
def isName (name : String) : Bool :=
  name.toList.head?.any Lexer.startsName && name.toList.all Lexer.continuesName

def isPlainName (name : String) : Bool :=
  isName name && !keywords.contains name

/-- Whether quoted text shows a character as it is or by an escape that is read back. -/
def isReadable (c : Char) : Bool :=
  ['\t', '\r', '\n', '\\', '"'].contains c || Unicode.isLiteral c

def BinaryOp.token : BinaryOp → Token
  | .comparison .equal => .equal
  | .comparison .notEqual => .notEqual
  | .comparison .less => .less
  | .comparison .greater => .greater
  | .comparison .lessEqual => .lessEqual
  | .comparison .greaterEqual => .greaterEqual
  | .arithmetic .add => .plus
  | .arithmetic .subtract => .minus
  | .arithmetic .multiply => .star
  | .arithmetic .divide => .slash
  | .arithmetic .modulo => .percent
  | .connective .and => .and
  | .connective .or => .or

namespace Expr

def isLambda : Expr → Bool
  | lambda .. => true
  | _ => false

def isString : Expr → Bool
  | string _ => true
  | _ => false

/-- Where the chain of accesses, members, existence checks and calls starts. -/
def receiver : Expr → Expr
  | access o _ => receiver o
  | member o _ => receiver o
  | existence e => receiver e
  | call o _ _ => receiver o
  | e => e

/-- The name of a field between brackets. -/
def fieldName? : Expr → Option String
  | key name => some name
  | _ => none

/-! ### Printable trees -/

mutual

def isPrintable : Expr → Bool
  | float x => x = 0.0 || (1e-4 ≤ x && x < 1e16)
  | integer n => 0 ≤ n.toInt
  | string s => s.toList.all isReadable
  | boolean _ => true
  | null => true
  | absent => true
  | root => true
  | collection name => isName name
  | binding name => isPlainName name
  | key _ => false
  | access o k =>
    isPrintable o && !isLambda o &&
      (k.fieldName?.any isPlainName || (isPrintable k && !isString (receiver k)))
  | member o name => isPrintable o && !isLambda o && isPlainName name
  | existence e => isPrintable e && !isLambda e
  | binary _ l r => isPrintable l && !isLambda l && isPrintable r
  | call o method args => isPrintable o && !isLambda o && isPlainName method && arePrintable args
  | lambda param body => isPlainName param && isPrintable body
  | object pairs => arePrintablePairs pairs
  | array items => arePrintable items

def arePrintable : List Expr → Bool
  | [] => true
  | e :: es => isPrintable e && arePrintable es

def arePrintablePairs : List (String × Expr) → Bool
  | [] => true
  | (k, e) :: ps => k.toList.all isReadable && isPrintable e && arePrintablePairs ps

end

/-! ### The tokens of a text -/

mutual

def tokens : Expr → List Token
  | float x => [.float x]
  | integer n => [.integer n]
  | string s => [.string s]
  | boolean b => [.boolean b]
  | null => [.null]
  | absent => [.absent]
  | root => [.dollar]
  | collection name => [.collection name]
  | binding name => [.atSign, .identifier name]
  | key name => [.identifier name]
  | access o k => tokens o ++ .leftBracket :: tokens k ++ [.rightBracket]
  | member o name => tokens o ++ [.dot, .identifier name]
  | existence e => tokens e ++ [.leftBracket, .question, .rightBracket]
  | binary op l r => .leftParen :: tokens l ++ op.token :: tokens r ++ [.rightParen]
  | call o method args =>
    tokens o ++ .dot :: .identifier method :: .leftParen :: itemTokens args ++ [.rightParen]
  | lambda param body => .atSign :: .identifier param :: .arrow :: tokens body
  | object pairs => .leftBrace :: pairTokens pairs ++ [.rightBrace]
  | array items => .leftBracket :: itemTokens items ++ [.rightBracket]

def itemTokens : List Expr → List Token
  | [] => []
  | [e] => tokens e
  | e :: e' :: es => tokens e ++ .comma :: itemTokens (e' :: es)

def pairTokens : List (String × Expr) → List Token
  | [] => []
  | [(k, e)] => .string k :: .colon :: tokens e
  | (k, e) :: p :: ps => .string k :: .colon :: tokens e ++ .comma :: pairTokens (p :: ps)

end

/-- The tokens start with a string only where the chain does. -/
theorem head_tokens_ne_string (e : Expr) (plain : isString e.receiver = false) (rest : List Token) (s : String) :
    (e.tokens ++ rest).head? ≠ some (.string s) := by
  fun_induction receiver e generalizing rest with
  | case1 o k ih =>
    simpa only [tokens, List.append_assoc] using ih plain _
  | case2 o name ih =>
    simpa only [tokens, List.append_assoc] using ih plain _
  | case3 e ih =>
    simpa only [tokens, List.append_assoc] using ih plain _
  | case4 o method args ih =>
    simpa only [tokens, List.append_assoc] using ih plain _
  | case5 e notAccess notMember notExistence notCall =>
    cases e with
    | string => cases plain
    | access => exact absurd rfl (notAccess _ _)
    | member => exact absurd rfl (notMember _ _)
    | existence => exact absurd rfl (notExistence _)
    | call => exact absurd rfl (notCall _ _ _)
    | _ => simp [tokens]

end Expr

/-! ### Derivations -/

namespace Grammar

/-- Whether no operator follows. -/
def Unjoined (rest : List Token) : Prop :=
  ∀ t ∈ rest.head?, level? t = none

theorem Greedy.of_unjoined {rest : List Token} (unjoined : Unjoined rest) (ts : List Token) : Greedy ts rest := by
  intro t follows operator
  rw [unjoined t follows] at operator
  cases operator

section
variable {Allowed : List Token → List Token → Prop} {ts mid rest : List Token}

/-- What a level derives is an expression. -/
theorem Derives.loosen {ℓ : Level} {e : Expr} (derived : Derives Allowed (.level ℓ e) ts rest) :
    Derives Allowed (.level .expression e) ts rest := by
  have ofConjunction : ∀ {e}, Derives Allowed (.level (.series .conjunction) e) ts rest →
      Derives Allowed (.level .expression e) ts rest := fun derived => .series derived (.done ..)
  have ofComparison : ∀ {e}, Derives Allowed (.level .comparison e) ts rest →
      Derives Allowed (.level .expression e) ts rest := fun derived => ofConjunction (.series derived (.done ..))
  have ofSum : ∀ {e}, Derives Allowed (.level (.series .sum) e) ts rest →
      Derives Allowed (.level .expression e) ts rest := fun derived => ofComparison (.alone derived)
  rcases ℓ with s | _ | _
  · cases s with
    | disjunction => exact derived
    | conjunction => exact ofConjunction derived
    | sum => exact ofSum derived
    | product => exact ofSum (.series derived (.done ..))
  · exact ofComparison derived
  · exact derived.ofOperand _

theorem Derives.joined {s : Series} {left right : Expr} {t : Token} {op : BinaryOp} (read : s.op? t = some op)
    (first : Derives Allowed (.level .operand left) ts (t :: mid))
    (second : Derives Allowed (.level .operand right) mid rest) :
    Derives Allowed (.level .expression (.binary op left right)) ts rest :=
  Derives.loosen (.series (first.ofOperand _) (.more read (second.ofOperand _) (.done ..)))

theorem Derives.binary {left right : Expr} (op : BinaryOp)
    (first : Derives Allowed (.level .operand left) ts (op.token :: mid))
    (second : Derives Allowed (.level .operand right) mid rest) :
    Derives Allowed (.level .expression (.binary op left right)) ts rest := by
  rcases op with c | a | c
  · have read : Parser.comparisonOp? (BinaryOp.comparison c).token = some (.comparison c) := by
      cases c <;> rfl
    exact Derives.loosen (.compared (first.ofOperand _) read (second.ofOperand _))
  · cases a with
    | add | subtract => exact Derives.joined (s := .sum) rfl first second
    | multiply | divide | modulo => exact Derives.joined (s := .product) rfl first second
  · cases c with
    | and => exact Derives.joined (s := .conjunction) rfl first second
    | or => exact Derives.joined (s := .disjunction) rfl first second

end

end Grammar

namespace Expr

/-- How the tokens of a tree are derived: before anything as an operand, save that no operator follows a
lambda, and before suffixes, if it is no lambda, as their object. -/
structure Written (e : Expr) : Prop where
  operand : ∀ rest, (isLambda e = true → Unjoined rest) →
    Derives Greedy (.level .operand e) (e.tokens ++ rest) rest
  suffixed : isLambda e = false → ∀ e' ts rest, Derives Greedy (.suffixes e e') ts rest →
    Derives Greedy (.level .operand e') (e.tokens ++ ts) rest

section
variable {e : Expr}

theorem Written.ofSuffixed (suffixed : ∀ e' ts rest, Derives Greedy (.suffixes e e') ts rest →
    Derives Greedy (.level .operand e') (e.tokens ++ ts) rest) : Written e :=
  ⟨fun rest _ => suffixed e rest rest (.bare e rest), fun _ => suffixed⟩

theorem Written.ofPrimary (primary : ∀ rest, Derives Greedy (.primary e) (e.tokens ++ rest) rest) : Written e :=
  .ofSuffixed fun _ ts _ others => .suffixed (primary ts) others

theorem Written.ofAtom {t : Token} (written : e.tokens = [t]) (read : atom? t = some e) : Written e := by
  refine .ofPrimary fun rest => ?_
  rw [written]
  exact .atom rest read

/-- An expression in front of a token that is no operator. -/
theorem Written.expression (written : Written e) {t : Token} (delimiter : level? t = none) (rest : List Token) :
    Derives Greedy (.level .expression e) (e.tokens ++ t :: rest) (t :: rest) := by
  refine (written.operand _ fun _ => ?_).loosen
  rintro _ ⟨⟩
  exact delimiter

end

mutual

/-- The tokens of a printable tree denote it. -/
theorem written_of_isPrintable : (e : Expr) → isPrintable e = true → Written e
  | float _, _ => .ofAtom rfl rfl
  | integer _, _ => .ofAtom rfl rfl
  | string _, _ => .ofAtom rfl rfl
  | boolean _, _ => .ofAtom rfl rfl
  | null, _ => .ofAtom rfl rfl
  | absent, _ => .ofAtom rfl rfl
  | root, _ => .ofAtom rfl rfl
  | collection _, _ => .ofAtom rfl rfl
  | binding name, _ => .ofPrimary fun rest => .binding name rest
  | access o k, printable => by
    simp only [isPrintable, Bool.and_eq_true, Bool.or_eq_true, Bool.not_eq_true', Option.any_eq_true] at printable
    obtain ⟨⟨object, notLambda⟩, between⟩ := printable
    refine .ofSuffixed fun e' ts rest others => ?_
    have inside : Derives Greedy (.key k) (k.tokens ++ .rightBracket :: ts) (.rightBracket :: ts) := by
      rcases between with ⟨name, field, _⟩ | ⟨computed, notString⟩
      · cases k with
        | key => exact .name _ rfl
        | _ => cases field
      · exact .computed (head_tokens_ne_string k notString _) ((written_of_isPrintable k computed).expression rfl ts)
    simpa only [tokens, List.append_assoc, List.cons_append, List.nil_append] using
      (written_of_isPrintable o object).suffixed notLambda _ _ _ (.access inside others)
  | member o name, printable => by
    simp only [isPrintable, Bool.and_eq_true, Bool.not_eq_true'] at printable
    obtain ⟨⟨object, notLambda⟩, _⟩ := printable
    refine .ofSuffixed fun e' ts rest others => ?_
    simpa only [tokens, List.append_assoc, List.cons_append, List.nil_append] using
      (written_of_isPrintable o object).suffixed notLambda _ _ _ (.member others)
  | existence o, printable => by
    simp only [isPrintable, Bool.and_eq_true, Bool.not_eq_true'] at printable
    obtain ⟨object, notLambda⟩ := printable
    refine .ofSuffixed fun e' ts rest others => ?_
    simpa only [tokens, List.append_assoc, List.cons_append, List.nil_append] using
      (written_of_isPrintable o object).suffixed notLambda _ _ _ (.existence others)
  | binary op l r, printable => by
    simp only [isPrintable, Bool.and_eq_true, Bool.not_eq_true'] at printable
    obtain ⟨⟨left, notLambda⟩, right⟩ := printable
    refine .ofPrimary fun rest => ?_
    have second := (written_of_isPrintable r right).operand (.rightParen :: rest) fun _ => by
      rintro _ ⟨⟩
      rfl
    have first := (written_of_isPrintable l left).operand (op.token :: (r.tokens ++ .rightParen :: rest)) fun lambda => by
      rw [notLambda] at lambda
      cases lambda
    simpa only [tokens, List.append_assoc, List.cons_append, List.nil_append] using
      Derives.group (Derives.binary op first second)
  | call o method args, printable => by
    simp only [isPrintable, Bool.and_eq_true, Bool.not_eq_true'] at printable
    obtain ⟨⟨⟨object, notLambda⟩, _⟩, given⟩ := printable
    refine .ofSuffixed fun e' ts rest others => ?_
    simpa only [tokens, List.append_assoc, List.cons_append, List.nil_append] using
      (written_of_isPrintable o object).suffixed notLambda _ _ _
        (.call (derives_itemTokens args given .rightParen rfl ts) others)
  | lambda param body, printable => by
    simp only [isPrintable, Bool.and_eq_true] at printable
    refine ⟨fun rest unjoined => ?_, nofun⟩
    -- The body takes any operator behind it, so a lambda is an operand only where none is.
    have ended : Unjoined rest := unjoined rfl
    exact .lambda param (.of_unjoined ended _)
      ((written_of_isPrintable body printable.2).operand rest fun _ => ended).loosen
  | object pairs, printable => by
    refine .ofPrimary fun rest => ?_
    simpa only [tokens, List.append_assoc, List.cons_append, List.nil_append] using
      Derives.object (derives_pairTokens pairs printable rest)
  | array items, printable => by
    refine .ofPrimary fun rest => ?_
    simpa only [tokens, List.append_assoc, List.cons_append, List.nil_append] using
      Derives.array (derives_itemTokens items printable .rightBracket rfl rest)

theorem derives_itemTokens : (items : List Expr) → arePrintable items = true → (close : Token) →
    level? close = none → (rest : List Token) →
    Derives Greedy (.list close items) (itemTokens items ++ close :: rest) (close :: rest)
  | [], _, close, _, rest => .noItem close rest
  | [e], printable, close, delimiter, rest => by
    simp only [arePrintable, Bool.and_true] at printable
    exact .lastItem ((written_of_isPrintable e printable).expression delimiter rest)
  | e :: e' :: es, printable, close, delimiter, rest => by
    rw [arePrintable, Bool.and_eq_true] at printable
    have others := derives_itemTokens (e' :: es) printable.2 close delimiter rest
    simpa only [itemTokens, List.append_assoc, List.cons_append] using
      Derives.item ((written_of_isPrintable e printable.1).expression rfl _) others

theorem derives_pairTokens : (pairs : List (String × Expr)) → arePrintablePairs pairs = true →
    (rest : List Token) →
    Derives Greedy (.pairs pairs) (pairTokens pairs ++ .rightBrace :: rest) (.rightBrace :: rest)
  | [], _, rest => .noPair rest
  | [(k, e)], printable, rest => by
    simp only [arePrintablePairs, Bool.and_true, Bool.and_eq_true] at printable
    exact .lastPair (t := .string k) rfl ((written_of_isPrintable e printable.2).expression rfl rest)
  | (k, e) :: p :: ps, printable, rest => by
    rw [arePrintablePairs, Bool.and_eq_true, Bool.and_eq_true] at printable
    have others := derives_pairTokens (p :: ps) printable.2 rest
    simpa only [pairTokens, List.append_assoc, List.cons_append] using
      Derives.pair (t := .string k) rfl ((written_of_isPrintable e printable.1.2).expression rfl _) others

end

end Expr

end DocChain
