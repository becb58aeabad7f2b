import DocChain.Number.Layout
import DocChain.Wire

/-!
# Wire text

The text of a wire value in JSON: `Wire.text` on one line without spaces, `Wire.prettyText` with
one field or item a line, indented by two spaces. Empty arrays and documents stay on one line.
-/

namespace DocChain

/-- Floats are positional from `1e-5` to below `1e16`, whole ones with a point; exponents have a
sign. -/
def wireFloat : FloatLayout :=
  { tie := .toEven, positional := some (-5, 15), wholePoint := true, exponentPlus := true }

example : [0.00001, 1e15, 1e16, -0.0].map wireFloat.text
    = ["0.00001", "1000000000000000.0", "1e+16", "-0.0"] := by decide +kernel

def Number.text : Number → String
  | .int n => toString n.toInt
  | .wide n => toString n.toNat
  | .float x => wireFloat.text x

namespace Wire

/-- Control characters have a letter or four hexadecimal digits behind a backslash. -/
def stringChar (c : Char) : List Char :=
  match c with
  | '"' => ['\\', '"']
  | '\\' => ['\\', '\\']
  | '\x08' => ['\\', 'b']
  | '\x0c' => ['\\', 'f']
  | '\n' => ['\\', 'n']
  | '\r' => ['\\', 'r']
  | '\t' => ['\\', 't']
  | _ =>
    if c.toNat < 32 then
      ['\\', 'u', '0', '0', Nat.digitChar (c.toNat / 16), Nat.digitChar (c.toNat % 16)]
    else [c]

def stringText (s : String) : String :=
  String.ofList ('"' :: s.toList.flatMap stringChar ++ ['"'])

mutual

def text : Wire → String
  | .null => "null"
  | .bool value => if value then "true" else "false"
  | .number n => n.text
  | .string s => stringText s
  | .array items => "[" ++ ",".intercalate (itemTexts items) ++ "]"
  | .object fields => "\x7b" ++ ",".intercalate (fieldTexts fields) ++ "\x7d"

def itemTexts : List Wire → List String
  | [] => []
  | item :: rest => text item :: itemTexts rest

def fieldTexts : List (String × Wire) → List String
  | [] => []
  | (key, value) :: rest => (stringText key ++ ":" ++ text value) :: fieldTexts rest

end

def lineBreak (depth : Nat) : String :=
  String.ofList ('\n' :: List.replicate (2 * depth) ' ')

/-- The lines of a container between its brackets. -/
def block (opening closing : String) (depth : Nat) (lines : List String) : String :=
  if lines.isEmpty then opening ++ closing
  else opening ++ lineBreak (depth + 1) ++ ("," ++ lineBreak (depth + 1)).intercalate lines
    ++ lineBreak depth ++ closing

mutual

def prettyAt (depth : Nat) : Wire → String
  | .null => "null"
  | .bool value => if value then "true" else "false"
  | .number n => n.text
  | .string s => stringText s
  | .array items => block "[" "]" depth (prettyItems depth items)
  | .object fields => block "\x7b" "\x7d" depth (prettyFields depth fields)

def prettyItems (depth : Nat) : List Wire → List String
  | [] => []
  | item :: rest => prettyAt (depth + 1) item :: prettyItems depth rest

def prettyFields (depth : Nat) : List (String × Wire) → List String
  | [] => []
  | (key, value) :: rest =>
    (stringText key ++ ": " ++ prettyAt (depth + 1) value) :: prettyFields depth rest

end

def prettyText (w : Wire) : String :=
  w.prettyAt 0

end Wire

end DocChain
