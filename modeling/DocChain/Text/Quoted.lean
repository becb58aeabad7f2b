import DocChain.Unicode.Literal

/-!
# Quoted text

`quoted` shows a string on one line between double quotes. Tab, line ends, NUL, backslash and
double quote have a letter or themselves behind a backslash; any other character that is not
literal is shown by its code point.
-/

namespace DocChain.Text

def codePoint (c : Char) : List Char :=
  ['\\', 'u', '{'] ++ Nat.toDigits 16 c.toNat ++ ['}']

def quotedChar (c : Char) : List Char :=
  match c with
  | '"' => ['\\', '"']
  | '\\' => ['\\', '\\']
  | '\n' => ['\\', 'n']
  | '\r' => ['\\', 'r']
  | '\t' => ['\\', 't']
  | '\x00' => ['\\', '0']
  | _ => if Unicode.isLiteral c then [c] else codePoint c

def quotedChars (text : List Char) : List Char :=
  '"' :: text.flatMap quotedChar ++ ['"']

def quoted (text : String) : String :=
  String.ofList (quotedChars text.toList)

end DocChain.Text
