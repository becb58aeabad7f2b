/-!
# Hexadecimal digits
-/

namespace DocChain.Text

def isHexDigit (c : Char) : Bool :=
  c.isDigit || ('a' ≤ c && c ≤ 'f') || ('A' ≤ c && c ≤ 'F')

/-- The value of hexadecimal digits, the greatest first. -/
def hexValue (digits : List Char) : Nat :=
  digits.foldl (fun value digit =>
    16 * value + (if digit.isDigit then digit.toNat - 48 else digit.toLower.toNat - 87)) 0

end DocChain.Text
