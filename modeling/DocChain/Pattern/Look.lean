/-!
# Conditions on a place

What a pattern can ask of a place in the text without taking a character.
-/

namespace DocChain.Pattern

/-- Where a place lies by the words around it. A half looks at one side only. -/
inductive WordPlace where
  | boundary | inside | start | finish | startHalf | finishHalf
deriving DecidableEq

inductive Look where
  | textStart
  | textEnd
  /-- The start of a line; with `crlf` also a carriage return ends one. -/
  | lineStart (crlf : Bool)
  | lineEnd (crlf : Bool)
  /-- A place by words, of which all letters can be part or only those of ASCII. -/
  | word (place : WordPlace) (unicode : Bool)
deriving DecidableEq

end DocChain.Pattern
