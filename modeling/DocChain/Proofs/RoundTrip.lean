import DocChain.Proofs.FloatText
import DocChain.Proofs.Lexemes
import DocChain.Proofs.ParserCompleteness

/-!
# Reading back a printed tree

The lexer reads the text of a printable tree as the tokens of the tree, and the parser reads these as the
tree. What a text stands in front of decides where its last token ends, so the induction keeps it open.
-/

namespace DocChain

open Lexer

section
variable {rest : List Char} {t : Token} {ts : List Token}

theorem Lexes.mark {c : Char} (read : ∀ position, (Lexer.mk (c :: rest) position).next =
    (.ok (some t), ⟨rest, position + 1⟩)) (behind : Lexes rest ts) : Lexes (c :: rest) (t :: ts) := by
  have reads : Reads [c] t rest := fun position => ⟨position + 1, read position⟩
  exact .cons reads behind

/-- An operator, which has a blank behind it. -/
theorem reads_symbol (op : BinaryOp) : Reads op.symbol.toList op.token (' ' :: rest) := by
  rcases op with c | a | c
  · cases c <;> exact fun position => ⟨_, rfl⟩
  · cases a <;> exact fun position => ⟨_, rfl⟩
  · cases c <;> exact fun position => ⟨_, rfl⟩

theorem reads_floatText {x : Float} (printable : Expr.isPrintable (.float x) = true) (boundary : Boundary rest) :
    Reads (exprFloat.text x).toList (.float x) rest := by
  simp only [Expr.isPrintable, Bool.or_eq_true, Bool.and_eq_true, decide_eq_true_eq] at printable
  obtain ⟨_, _, ⟨whole, fraction, text, some, more, digits, places, rfl, rfl⟩, read⟩ := text_writes printable
  rw [text, ← read]
  exact reads_float digits boundary some places more

end

namespace Expr

/-- The key of an object, its colon and its value. -/
theorem lexes_pair {key : String} {rest : List Char} {ts : List Token} (readable : key.toList.all isReadable = true)
    (value : Lexes rest ts) :
    Lexes ((Text.quoted key).toList ++ ':' :: ' ' :: rest) (.string key :: .colon :: ts) := by
  rw [Text.quoted, String.toList_ofList]
  exact .cons (reads_quoted readable) (.mark (fun _ => rfl) (.blank value))

mutual

-- Each case lexes its text from the end, since what follows a token decides where it ends: in `5.n` the integer
-- ends because a name follows its point.
theorem lexes_text : (e : Expr) → isPrintable e = true → (rest : List Char) → (ts : List Token) →
    Boundary rest → Lexes rest ts → Lexes ((text e).toList ++ rest) (tokens e ++ ts)
  | float x, printable, rest, ts, boundary, behind => .cons (reads_floatText printable boundary) behind
  | integer n, printable, rest, ts, boundary, behind =>
    .cons (reads_toString (of_decide_eq_true printable) boundary) behind
  | string s, printable, rest, ts, _, behind => by
    rw [text, Text.quoted, String.toList_ofList]
    exact .cons (reads_quoted printable) behind
  | boolean b, _, rest, ts, boundary, behind => by
    cases b with
    | true => exact .cons (reads_name "true" (by decide +kernel) boundary) behind
    | false => exact .cons (reads_name "false" (by decide +kernel) boundary) behind
  | null, _, rest, ts, boundary, behind => .cons (reads_name "null" (by decide +kernel) boundary) behind
  | absent, _, rest, ts, boundary, behind => .cons (reads_name "absent" (by decide +kernel) boundary) behind
  | root, _, rest, ts, boundary, behind => .cons (reads_root boundary) behind
  | collection name, printable, rest, ts, boundary, behind => by
    rw [text, String.toList_append]
    exact .cons (reads_collection printable boundary) behind
  | binding name, printable, rest, ts, boundary, behind => by
    rw [text, String.toList_append]
    exact .mark (fun _ => rfl) (.cons (reads_identifier printable boundary) behind)
  | access o k, printable, rest, ts, boundary, behind => by
    simp only [isPrintable, Bool.and_eq_true, Bool.or_eq_true, Bool.not_eq_true', Option.any_eq_true] at printable
    obtain ⟨⟨object, _⟩, between⟩ := printable
    have close : Lexes (']' :: rest) (.rightBracket :: ts) := .mark (fun _ => rfl) behind
    have ends : Boundary (']' :: rest) := .mark rfl (by decide) rest
    have inside : Lexes ((text k).toList ++ ']' :: rest) (tokens k ++ .rightBracket :: ts) := by
      rcases between with ⟨name, field, plain⟩ | ⟨computed, _⟩
      · cases k with
        | key =>
          cases field
          exact .cons (reads_identifier plain ends) close
        | _ => cases field
      · exact lexes_text k computed _ _ ends close
    have opened : Lexes ('[' :: ((text k).toList ++ ']' :: rest)) (.leftBracket :: (tokens k ++ .rightBracket :: ts)) :=
      .mark (fun _ => rfl) inside
    simpa [text, tokens] using lexes_text o object _ _ (.mark rfl (by decide) _) opened
  | member o name, printable, rest, ts, boundary, behind => by
    simp only [isPrintable, Bool.and_eq_true, Bool.not_eq_true'] at printable
    obtain ⟨⟨object, _⟩, plain⟩ := printable
    have dotted : Lexes ('.' :: (name.toList ++ rest)) (.dot :: .identifier name :: ts) :=
      .mark (fun _ => rfl) (.cons (reads_identifier plain boundary) behind)
    simpa [text, tokens] using lexes_text o object _ _ (.member plain rest) dotted
  | existence o, printable, rest, ts, boundary, behind => by
    simp only [isPrintable, Bool.and_eq_true] at printable
    have check : Lexes ('[' :: '?' :: ']' :: rest) (.leftBracket :: .question :: .rightBracket :: ts) :=
      .mark (fun _ => rfl) (.mark (fun _ => rfl) (.mark (fun _ => rfl) behind))
    simpa [text, tokens] using lexes_text o printable.1 _ _ (.mark rfl (by decide) _) check
  | binary op l r, printable, rest, ts, boundary, behind => by
    simp only [isPrintable, Bool.and_eq_true, Bool.not_eq_true'] at printable
    obtain ⟨⟨left, _⟩, right⟩ := printable
    have close : Lexes (')' :: rest) (.rightParen :: ts) := .mark (fun _ => rfl) behind
    have second : Lexes ((text r).toList ++ ')' :: rest) (tokens r ++ .rightParen :: ts) :=
      lexes_text r right _ _ (.mark rfl (by decide) _) close
    have joined : Lexes (' ' :: (op.symbol.toList ++ ' ' :: ((text r).toList ++ ')' :: rest)))
        (op.token :: (tokens r ++ .rightParen :: ts)) :=
      .blank (.cons (reads_symbol op) (.blank second))
    have opened : Lexes ('(' :: ((text l).toList ++ ' ' :: (op.symbol.toList ++ ' ' :: ((text r).toList ++ ')' :: rest))))
        (.leftParen :: (tokens l ++ op.token :: (tokens r ++ .rightParen :: ts))) :=
      .mark (fun _ => rfl) (lexes_text l left _ _ (.mark rfl (by decide) _) joined)
    simpa [text, tokens] using opened
  | call o method args, printable, rest, ts, boundary, behind => by
    simp only [isPrintable, Bool.and_eq_true, Bool.not_eq_true'] at printable
    obtain ⟨⟨⟨object, _⟩, plain⟩, given⟩ := printable
    have close : Lexes (')' :: rest) (.rightParen :: ts) := .mark (fun _ => rfl) behind
    have opened : Lexes ('(' :: ((", ".intercalate (itemTexts args)).toList ++ ')' :: rest))
        (.leftParen :: (itemTokens args ++ .rightParen :: ts)) :=
      .mark (fun _ => rfl) (lexes_itemTexts args given _ _ (.mark rfl (by decide) _) close)
    have dotted : Lexes ('.' :: (method.toList ++ '(' :: ((", ".intercalate (itemTexts args)).toList ++ ')' :: rest)))
        (.dot :: .identifier method :: .leftParen :: (itemTokens args ++ .rightParen :: ts)) :=
      .mark (fun _ => rfl) (.cons (reads_identifier plain (.mark rfl (by decide) _)) opened)
    simpa [text, tokens] using lexes_text o object _ _ (.member plain _) dotted
  | lambda param body, printable, rest, ts, boundary, behind => by
    simp only [isPrintable, Bool.and_eq_true] at printable
    obtain ⟨plain, printable⟩ := printable
    have inner : Lexes (' ' :: ((text body).toList ++ rest)) (tokens body ++ ts) :=
      .blank (lexes_text body printable _ _ boundary behind)
    have reads (rest : List Char) : Reads ['=', '>'] .arrow rest := fun position => ⟨position + 2, rfl⟩
    have arrow : Lexes (' ' :: '=' :: '>' :: ' ' :: ((text body).toList ++ rest)) (.arrow :: (tokens body ++ ts)) :=
      .blank (.cons (reads _) inner)
    have opened : Lexes ('@' :: (param.toList ++ ' ' :: '=' :: '>' :: ' ' :: ((text body).toList ++ rest)))
        (.atSign :: .identifier param :: .arrow :: (tokens body ++ ts)) :=
      .mark (fun _ => rfl) (.cons (reads_identifier plain (.mark rfl (by decide) _)) arrow)
    simpa [text, tokens] using opened
  | object pairs, printable, rest, ts, boundary, behind => by
    have close : Lexes ('}' :: rest) (.rightBrace :: ts) := .mark (fun _ => rfl) behind
    have opened : Lexes ('{' :: ((", ".intercalate (pairTexts pairs)).toList ++ '}' :: rest))
        (.leftBrace :: (pairTokens pairs ++ .rightBrace :: ts)) :=
      .mark (fun _ => rfl) (lexes_pairTexts pairs printable _ _ (.mark rfl (by decide) _) close)
    simpa [text, tokens] using opened
  | array items, printable, rest, ts, boundary, behind => by
    have close : Lexes (']' :: rest) (.rightBracket :: ts) := .mark (fun _ => rfl) behind
    have opened : Lexes ('[' :: ((", ".intercalate (itemTexts items)).toList ++ ']' :: rest))
        (.leftBracket :: (itemTokens items ++ .rightBracket :: ts)) :=
      .mark (fun _ => rfl) (lexes_itemTexts items printable _ _ (.mark rfl (by decide) _) close)
    simpa [text, tokens] using opened

theorem lexes_itemTexts : (items : List Expr) → arePrintable items = true → (rest : List Char) → (ts : List Token) →
    Boundary rest → Lexes rest ts →
    Lexes ((", ".intercalate (itemTexts items)).toList ++ rest) (itemTokens items ++ ts)
  | [], _, rest, ts, _, behind => by simpa [itemTexts, itemTokens] using behind
  | [e], printable, rest, ts, boundary, behind => by
    simp only [arePrintable, Bool.and_true] at printable
    simpa [itemTexts, itemTokens] using lexes_text e printable rest ts boundary behind
  | e :: e' :: es, printable, rest, ts, boundary, behind => by
    rw [arePrintable, Bool.and_eq_true] at printable
    have others := lexes_itemTexts (e' :: es) printable.2 rest ts boundary behind
    have comma : Lexes (',' :: ' ' :: ((", ".intercalate (itemTexts (e' :: es))).toList ++ rest))
        (.comma :: (itemTokens (e' :: es) ++ ts)) := .mark (fun _ => rfl) (.blank others)
    simpa [itemTexts, itemTokens, String.intercalate_cons_cons] using
      lexes_text e printable.1 _ _ (.mark rfl (by decide) _) comma

theorem lexes_pairTexts : (pairs : List (String × Expr)) → arePrintablePairs pairs = true → (rest : List Char) →
    (ts : List Token) → Boundary rest → Lexes rest ts →
    Lexes ((", ".intercalate (pairTexts pairs)).toList ++ rest) (pairTokens pairs ++ ts)
  | [], _, rest, ts, _, behind => by simpa [pairTexts, pairTokens] using behind
  | [(k, e)], printable, rest, ts, boundary, behind => by
    simp only [arePrintablePairs, Bool.and_true, Bool.and_eq_true] at printable
    simpa [pairTexts, pairTokens] using
      lexes_pair printable.1 (lexes_text e printable.2 rest ts boundary behind)
  | (k, e) :: p :: ps, printable, rest, ts, boundary, behind => by
    rw [arePrintablePairs, Bool.and_eq_true, Bool.and_eq_true] at printable
    have others := lexes_pairTexts (p :: ps) printable.2 rest ts boundary behind
    have comma : Lexes (',' :: ' ' :: ((", ".intercalate (pairTexts (p :: ps))).toList ++ rest))
        (.comma :: (pairTokens (p :: ps) ++ ts)) := .mark (fun _ => rfl) (.blank others)
    have first := lexes_pair printable.1.1 (lexes_text e printable.1.2 _ _ (.mark rfl (by decide) _) comma)
    simpa [pairTexts, pairTokens, String.intercalate_cons_cons] using first

end

/-- A printable tree is what its text is parsed as. -/
theorem parse_text (e : Expr) (printable : e.isPrintable = true) : Expr.parse e.text = .ok e := by
  have lexed : Lexes e.text.toList e.tokens := by
    simpa using lexes_text e printable [] [] .nil .nil
  have derived : Grammar.Derives Grammar.Greedy (.level .expression e) e.tokens [] := by
    simpa using ((written_of_isPrintable e printable).operand [] fun _ => by rintro _ ⟨⟩).loosen
  exact parse_of_derives lexed.tokenize derived

/-- A source with the name of a keyword, a number with a member, escapes, both kinds of access and a lambda. -/
theorem parse_text_nested :
    let e := Expr.call (.collection "and") "map"
      [.lambda "p" (.binary (.comparison .less) (.member (.integer 5) "n") (.float 0.5)),
        .existence (.access (.binding "p") (.key "age")),
        .access .root (.binary (.arithmetic .add) (.string "a\"\n") (.binding "q")),
        .object [("k", .array [.null, .float 1e15])]]
    e.isPrintable = true ∧
      e.text = "$and.map(@p => (5.n < 0.5), @p[age][?], $[(\"a\\\"\\n\" + @q)], \x7b\"k\": [null, 1000000000000000.0]\x7d)" ∧
      Expr.parse e.text = .ok e := by
  intro e
  have printable : e.isPrintable = true := by decide +kernel
  exact ⟨printable, by decide +kernel, parse_text e printable⟩

end Expr

end DocChain
