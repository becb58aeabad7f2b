import DocChain.Text.Hex
import DocChain.Unicode.Ranges

/-!
# Tables of code points as text

A large table is kept as text, which is short and quick to read. An entry is a word of hexadecimal
numbers with hyphens between them, each number the step from the one before it: `41-19 7-19` are
the ranges from `A` to `Z` and from `a` to `z`.
-/

namespace DocChain.Unicode

def tableSteps (word : String) : List Nat :=
  (word.splitOn "-").map fun digits => Text.hexValue digits.toList

/-- The entries of a table, of which a line holds as many as fit. -/
def tableEntries (lines : List String) : List (List Nat) :=
  lines.flatMap fun line => (line.splitOn " ").map tableSteps

/-- Ranges from steps: to the first member, from the end of the range before, and from there to the
last, which a range of one member leaves out. -/
def Ranges.ofSteps (previous : Nat) : List (List Nat) → Ranges
  | [] => []
  | steps :: entries =>
    let first := previous + steps.headD 0
    let last := first + steps.tail.headD 0
    (first, last) :: ofSteps last entries

def Ranges.ofText (lines : List String) : Ranges :=
  ofSteps 0 (tableEntries lines)

/-- Sets of a few members from steps: to the first member, from the first of the set before, and
from there on to each next one. -/
def setsOfSteps (previous : Nat) : List (List Nat) → List (List Nat)
  | [] => []
  | steps :: entries =>
    let first := previous + steps.headD 0
    steps.tail.foldl (fun members step => members ++ [members.getLastD first + step]) [first] ::
      setsOfSteps first entries

end DocChain.Unicode
