import DocChain.Proofs.TokenLayout

/-!
# Runs of a lexer

A lexer can be asked again after every answer, an error included. It always stands at the place in the text that
its position says (`Lexer.At`), goes forward and never past the end, and an error says where in the text its cause
is (`LexError.Points`).
-/

namespace DocChain

namespace Lexer

/-- The lexer after some calls, whatever they answered. -/
def after (l : Lexer) : Nat → Lexer
  | 0 => l
  | k + 1 => (l.after k).next.2

theorem after_of_fixed {l : Lexer} (fixed : l.next.2 = l) (k : Nat) : l.after k = l := by
  induction k with
  | zero => rfl
  | succ k ih => rw [after, ih, fixed]

/-! ### Places in a text -/

/-- Whether a lexer stands at the place in a text that its position says. -/
structure At (text : List Char) (l : Lexer) : Prop where
  rest : l.rest = text.drop l.position
  inside : l.position ≤ text.length

namespace At

variable {text : List Char} {l : Lexer}

theorem start (text : String) : At text.toList (ofText text) :=
  ⟨rfl, Nat.zero_le _⟩

theorem length (stands : At text l) : l.rest.length + l.position = text.length := by
  have inside := stands.inside
  rw [stands.rest, List.length_drop]
  omega

theorem getElem? (stands : At text l) (i : Nat) : l.rest[i]? = text[l.position + i]? := by
  rw [stands.rest, List.getElem?_drop]

theorem skip (stands : At text l) {n : Nat} (ahead : n ≤ l.rest.length) : At text (l.skip n) := by
  have length := stands.length
  refine ⟨?_, ?_⟩
  · rw [Lexer.skip, stands.rest, List.drop_drop]
  · change l.position + n ≤ text.length
    omega

theorem next (stands : At text l) : At text l.next.2 := by
  obtain ⟨n, ahead, moved⟩ := next_skip l
  rw [moved]
  exact stands.skip ahead

theorem after (stands : At text l) (k : Nat) : At text (l.after k) := by
  induction k with
  | zero => exact stands
  | succ k ih => exact ih.next

end At

theorem position_le_next (l : Lexer) : l.position ≤ l.next.2.position := by
  obtain ⟨n, _, moved⟩ := next_skip l
  rw [moved]
  exact Nat.le_add_right _ _

theorem position_after_mono (l : Lexer) {j k : Nat} (le : j ≤ k) : (l.after j).position ≤ (l.after k).position :=
  monotone_nat_of_le_succ (f := fun k => (l.after k).position) (fun k => position_le_next (l.after k)) le

/-! ### The end -/

theorem rest_of_ended {l : Lexer} (ended : l.next.1 = .ok none) : l.next.2.rest = [] := by
  have skipped := next_blanks (blank_of_next ended) [] l.position
  rw [List.append_nil] at skipped
  rw [skipped]
  rfl

/-- Behind the end nothing but the end follows. -/
theorem ended_after {l : Lexer} (ended : l.next.1 = .ok none) (k : Nat) : (l.next.2.after k).next.1 = .ok none := by
  have nothing := rest_of_ended ended
  generalize l.next.2 = left at nothing
  obtain ⟨rest, position⟩ := left
  obtain rfl : rest = [] := nothing
  rw [after_of_fixed rfl k]
  rfl

/-! ### Streams -/

theorem next_of_still {l : Lexer} (stays : ¬ l.next.2.rest.length < l.rest.length) : l.next.2 = l := by
  obtain ⟨n, ahead, moved⟩ := next_skip l
  rw [moved, skip, List.length_drop] at stays
  obtain rfl : n = 0 := by omega
  exact moved

theorem ofLexer_of_error {l : Lexer} {e : LexError} (failed : l.next.1 = .error e) :
    TokenStream.ofLexer l =
      if l.next.2.rest.length < l.rest.length then .fault e (TokenStream.ofLexer l.next.2) else .stuck e := by
  rw [TokenStream.ofLexer]
  split <;> rename_i found <;> rw [failed] at found <;> cases found
  split <;> rfl

/-- A stream answers what its lexer does, call after call. -/
theorem next_ofLexer (l : Lexer) : (TokenStream.ofLexer l).next = (l.next.1, TokenStream.ofLexer l.next.2) := by
  rcases answer : l.next.1 with e | _ | t
  · rcases Decidable.em (l.next.2.rest.length < l.rest.length) with forward | stays
    · rw [ofLexer_of_error answer, if_pos forward]
      rfl
    · rw [next_of_still stays, ofLexer_of_error answer, if_neg stays]
      rfl
  · have still : l.next.2.next.1 = .ok none := ended_after answer 0
    rw [ofLexer_of_none answer, ofLexer_of_none still]
    rfl
  · rw [ofLexer_of_some (Prod.ext answer rfl)]
    rfl

end Lexer

/-! ### Where errors point -/

/-- What an error says of the text, and of the lexer that it leaves behind. -/
def LexError.Points (text : List Char) (left : Lexer) : LexError → Prop
  | unexpectedChar ch p =>
    text[p]? = some ch ∧ left.position = p ∧ ∀ k, (left.after k).next.1 = .error (.unexpectedChar ch p)
  | loneEquals p =>
    text[p]? = some '=' ∧ text[p + 1]? ≠ some '=' ∧ text[p + 1]? ≠ some '>' ∧ left.position = p ∧
      ∀ k, (left.after k).next.1 = .error (.loneEquals p)
  | invalidEscape ch p =>
    text[p]? = some ch ∧ 0 < p ∧ text[p - 1]? = some '\\' ∧ left.position = p
  | unterminatedString p =>
    (text[p]? = some '"' ∨ text[p]? = some '\'') ∧ left.position = text.length
  | invalidNumber literal p =>
    p ≤ left.position ∧ literal.toList = (text.take left.position).drop p

namespace Lexer

variable {text : List Char} {l left : Lexer} {c : Char} {rest : List Char} {e : LexError}

/-- A string is broken at its end or behind a backslash. -/
theorem stringBody_error {quote : Char} {start position : Nat} {body : List Char}
    (failed : stringBody quote start position body = (.error e, left)) :
    (e = .unterminatedString start ∧ left.rest = []) ∨
      ∃ n ch, e = .invalidEscape ch (position + n + 1) ∧ body[n]? = some '\\' ∧ body[n + 1]? = some ch ∧
        left.position = position + n + 1 := by
  fun_induction stringBody quote start position body generalizing left with
  | case1 | case3 =>
    cases failed
    exact .inl ⟨rfl, rfl⟩
  | case2 | case4 => cases failed
  | case5 position ch rest unknown other =>
    cases failed
    exact .inr ⟨0, ch, rfl, rfl, rfl, rfl⟩
  | case6 position letter rest known found body stopped read other ih =>
    cases body with
    | ok s => cases failed
    | error e' =>
      cases failed
      obtain ended | ⟨n, ch, rfl, slash, behind, stops⟩ := ih read
      · exact .inl ended
      · refine .inr ⟨n + 2, ch, ?_, slash, behind, ?_⟩
        · congr 1
          omega
        · omega
  | case7 position first second rest other plain body stopped read ih =>
    cases body with
    | ok s => cases failed
    | error e' =>
      cases failed
      obtain ended | ⟨n, ch, rfl, slash, behind, stops⟩ := ih read
      · exact .inl ended
      · refine .inr ⟨n + 1, ch, ?_, slash, behind, ?_⟩
        · congr 1
          omega
        · omega

theorem points_of_string (stands : At text l) (first : l.rest = c :: rest) (mark : c = '"' ∨ c = '\'')
    (failed : stringBody c l.position (l.position + 1) rest = (.error e, left)) (leaves : At text left) :
    e.Points text left := by
  have here := stands.getElem? 0
  rw [first] at here
  obtain ⟨rfl, ended⟩ | ⟨n, ch, rfl, slash, behind, stops⟩ := stringBody_error failed
  · refine ⟨?_, ?_⟩
    · rcases mark with rfl | rfl
      · exact .inl here.symm
      · exact .inr here.symm
    · have length := leaves.length
      rw [ended] at length
      exact (Nat.zero_add _).symm.trans length
  · have slashAt := stands.getElem? (n + 1)
    have behindAt := stands.getElem? (n + 2)
    rw [first, List.getElem?_cons_succ] at slashAt behindAt
    refine ⟨?_, Nat.succ_pos _, ?_, stops⟩
    · rw [← behind, behindAt]
      congr 1
      omega
    · rw [← slash, slashAt]
      congr 1
      omega

theorem points_of_number (stands : At text l) (failed : l.number = (.error e, left)) : e.Points text left := by
  unfold number at failed
  split at failed <;> rename_i parts
  · cases failed
  · obtain ⟨rfl, _⟩ := numberParts_form parts
    split at failed
    · cases failed
    · cases failed
      refine ⟨Nat.le_add_right _ _, ?_⟩
      have leads := List.prefix_iff_eq_take.mp (List.takeWhile_prefix (l := l.rest) Char.isDigit)
      rw [String.toList_ofList, skip, List.drop_take, Nat.add_sub_cancel_left, ← stands.rest]
      exact leads

/-- A lexer stands still at a character that begins no token. -/
theorem points_of_symbol (stands : At text l) (first : l.rest = c :: rest) (solid : Unicode.isBlank c = false)
    (token : l.token c rest = l.symbol c) (failed : l.symbol c = (.error e, left)) : e.Points text left := by
  obtain ⟨_, position⟩ := l
  cases first
  have here : text[position]? = some c := by simpa using (stands.getElem? 0).symm
  have stuck : left = ⟨c :: rest, position⟩ ∧ ∀ k, (left.after k).next.1 = .error e := by
    have same : left = ⟨c :: rest, position⟩ := by
      unfold symbol at failed
      split at failed <;> cases failed
      rfl
    subst same
    have again : (mk (c :: rest) position).next = (.error e, ⟨c :: rest, position⟩) := by
      rw [next_of_token solid, token, failed]
      rfl
    refine ⟨rfl, fun k => ?_⟩
    rw [after_of_fixed (by rw [again]) k, again]
  obtain ⟨rfl, repeats⟩ := stuck
  unfold symbol at failed
  split at failed
  · cases failed
  · rename_i none
    by_cases equals : c = '='
    · subst equals
      cases failed
      have unmatched := List.find?_eq_none.mp none
      have other (d : Char) (t : Token) (listed : (['=', d], t) ∈ symbols) : text[position + 1]? ≠ some d := by
        intro follows
        have second : rest[0]? = some d := by
          have same := stands.getElem? 1
          rw [List.getElem?_cons_succ] at same
          exact same.trans follows
        cases rest with
        | nil => cases second
        | cons d' rest =>
          cases second
          exact unmatched _ listed (by simp)
      exact ⟨here, other '=' .equal (by simp [symbols]), other '>' .arrow (by simp [symbols]), rfl, repeats⟩
    · simp only [equals, if_false] at failed
      cases failed
      exact ⟨here, rfl, repeats⟩

theorem points_of_token (stands : At text l) (first : l.rest = c :: rest) (solid : Unicode.isBlank c = false)
    (failed : l.token c rest = (.error e, left)) : e.Points text left := by
  have leaves : At text left := by
    obtain ⟨n, ahead, moved⟩ := token_skip first
    rw [failed] at moved
    rw [show left = l.skip n from moved]
    exact stands.skip ahead
  unfold token at failed
  split at failed
  · cases failed
  · split at failed
    · rename_i mark
      cases body : stringBody c l.position (l.position + 1) rest with
      | mk answer stopped =>
        rw [body] at failed
        cases answer with
        | ok s => cases failed
        | error e' =>
          cases failed
          exact points_of_string stands first (by simpa using mark) body leaves
    · split at failed
      · cases failed
      · split at failed
        · exact points_of_number stands failed
        · rename_i noCollection noString noName noNumber
          refine points_of_symbol stands first solid ?_ failed
          unfold token
          rw [if_neg noCollection, if_neg noString, if_neg noName, if_neg noNumber]

/-- Every error points at its cause. -/
theorem points_of_next (stands : At text l) (failed : l.next.1 = .error e) : e.Points text l.next.2 := by
  obtain ⟨lead, solid, split, led, starts⟩ := exists_blank_append l.rest
  have there : At text ⟨solid, l.position + lead.length⟩ := by
    have moved := stands.skip (n := lead.length) (by simp [split])
    rwa [skip, split, List.drop_left] at moved
  have same : l.next = (mk solid (l.position + lead.length)).next := by
    rw [← next_blanks led, ← split]
  rw [same] at failed ⊢
  rcases starts with rfl | ⟨c, rest, rfl, seen⟩
  · cases failed
  · rw [next_of_token seen] at failed ⊢
    cases read : (mk (c :: rest) (l.position + lead.length)).token c rest with
    | mk answer left =>
      rw [read] at failed
      cases answer with
      | ok t => cases failed
      | error e' =>
        cases failed
        exact points_of_token there rfl seen read

/-- What a call answers of a lexer in a text, and where it leaves the lexer. -/
structure Call (text : List Char) (l : Lexer) : Prop where
  forward : l.position ≤ l.next.2.position
  inside : l.next.2.position ≤ text.length
  token : ∀ t, l.next.1 = .ok (some t) → l.position < l.next.2.position
  atEnd : l.next.1 = .ok none ↔ ∀ c ∈ text.drop l.position, Unicode.isBlank c = true
  ended : l.next.1 = .ok none → ∀ k, (l.next.2.after k).next.1 = .ok none
  points : ∀ e, l.next.1 = .error e → e.Points text l.next.2

theorem At.call (stands : At text l) : Call text l where
  forward := position_le_next l
  inside := stands.next.inside
  token t read := by
    have before := stands.length
    have behind := stands.next.length
    have shorter := rest_length_lt_of_next read
    omega
  atEnd := by
    rw [← stands.rest]
    exact ⟨blank_of_next, fun blank => next_of_blank blank l.position⟩
  ended := ended_after
  points _ := points_of_next stands

/-- Over any run the lexer goes forward in the text up to its end, every token takes something, and every error
points at its cause. -/
theorem runs_forward (text : String) :
    (∀ j k, j ≤ k → ((ofText text).after j).position ≤ ((ofText text).after k).position) ∧
      ∀ k, Call text.toList ((ofText text).after k) :=
  ⟨fun _ _ => position_after_mono _, fun k => ((At.start text).after k).call⟩

/-- Calls inside a broken string: a wrong escape, its letter, and the string that the last quote opens. -/
theorem runs_forward_in_string :
    let text := "'a\\q' ="
    let l := ofText text
    ((l.next.1 = .error (.invalidEscape 'q' 3) ∧ (l.after 1).next.1 = .ok (some (.identifier "q")) ∧
      (l.after 2).next.1 = .error (.unterminatedString 4)) ∧
      LexError.Points text.toList (l.after 1) (.invalidEscape 'q' 3) ∧
        LexError.Points text.toList (l.after 3) (.unterminatedString 4)) ∧
      (l.after 1).position < (l.after 2).position := by
  intro text l
  have stream : TokenStream.ofText text = .fault (.invalidEscape 'q' 3) (.token (.identifier "q")
      (.fault (.unterminatedString 4) .done)) := by
    decide +kernel
  obtain ⟨first, behind⟩ := Prod.mk.inj ((next_ofLexer l).symm.trans (congrArg TokenStream.next stream))
  obtain ⟨second, behind⟩ := Prod.mk.inj ((next_ofLexer (l.after 1)).symm.trans (congrArg TokenStream.next behind))
  obtain ⟨third, _⟩ := Prod.mk.inj ((next_ofLexer (l.after 2)).symm.trans (congrArg TokenStream.next behind))
  have calls := (runs_forward text).2
  exact ⟨⟨⟨first, second, third⟩, (calls 0).points _ first, (calls 2).points _ third⟩, (calls 1).token _ second⟩

end Lexer

end DocChain
