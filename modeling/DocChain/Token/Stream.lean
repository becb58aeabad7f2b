import DocChain.Token.Lexer

/-!
# Token streams

All that a lexer will answer, call after call. An error at which the lexer stands still is
answered for ever; after any other error reading goes on behind it.
-/

namespace DocChain

inductive TokenStream where
  | done
  | token (t : Token) (rest : TokenStream)
  | fault (e : LexError) (rest : TokenStream)
  | stuck (e : LexError)
deriving DecidableEq

namespace TokenStream

def ofLexer (l : Lexer) : TokenStream :=
  match h : l.next.1 with
  | .ok none => .done
  | .ok (some t) =>
    have := Lexer.rest_length_lt_of_next h
    .token t (ofLexer l.next.2)
  | .error e =>
    if _h : l.next.2.rest.length < l.rest.length then .fault e (ofLexer l.next.2) else .stuck e
termination_by l.rest.length

def ofText (text : String) : TokenStream :=
  ofLexer (.ofText text)

/-- The next answer, and the stream behind it. -/
def next : TokenStream → Except LexError (Option Token) × TokenStream
  | done => (.ok none, done)
  | token t rest => (.ok (some t), rest)
  | fault e rest => (.error e, rest)
  | stuck e => (.error e, stuck e)

def length : TokenStream → Nat
  | done => 0
  | token _ rest => rest.length + 1
  | fault _ rest => rest.length + 1
  | stuck _ => 1

def tokens : TokenStream → Except LexError (List Token)
  | done => .ok []
  | token t rest => rest.tokens.map (t :: ·)
  | fault e _ => .error e
  | stuck e => .error e

end TokenStream

def tokenize (text : String) : Except LexError (List Token) :=
  (TokenStream.ofText text).tokens

end DocChain
