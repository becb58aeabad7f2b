import DocChain.Pattern.Automaton
import DocChain.Pattern.Reading

/-!
# Well-formed patterns

`Pattern.isValid` tells whether a text is a regular expression that can be matched: it can be read,
its nesting is limited, and its automaton does not grow too large.
-/

namespace DocChain.Pattern

/-- The greatest nesting of groups, repetitions, classes and their parts. -/
def depthLimit : Nat := 250

def isValid (pattern : String) : Bool :=
  match read? pattern.toList with
  | some whole => whole.depth ≤ depthLimit && whole.meaning.fits
  | none => false

end DocChain.Pattern
