import DocChain.Unicode.Table

/-!
# Tables of properties

Names in a table are in the form in which `\p` compares them: without spaces, underscores, hyphens,
capitals and a leading "is".
-/

namespace DocChain.Pattern

open DocChain.Unicode

/-- A set of characters with the names it goes by, which blanks divide, and its ranges as text. -/
structure NamedSet where
  names : String
  ranges : List String

abbrev PropertyTable := List NamedSet

def isListed (names : String) (name : String) : Bool :=
  (names.splitOn " ").contains name

def PropertyTable.find? (table : PropertyTable) (name : String) : Option Ranges :=
  (List.find? (fun entry => isListed entry.names name) table).map fun entry =>
    Ranges.ofText entry.ranges

end DocChain.Pattern
