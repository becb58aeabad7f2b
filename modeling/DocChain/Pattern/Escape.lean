import DocChain.Pattern.CaseFolding
import DocChain.Pattern.Flags
import DocChain.Pattern.Property
import DocChain.Unicode.Blank

/-!
# Escapes in patterns

What a backslash may be followed by. In verbose mode white space and comments, which run from `#`
to the end of the line, may stand inside an escape. Without Unicode a set holds ASCII characters
only: a match has to be whole characters, and without Unicode other characters fall into bytes.
-/

namespace DocChain.Pattern

open DocChain.Unicode

inductive Escape where
  /-- A character, which may be written as a byte. -/
  | literal (code : Nat) (byte : Bool)
  | set (ranges : Ranges)
  | look (kind : Look)

def dropComments : (inComment : Bool) → List Char → List Char
  | _, [] => []
  | true, c :: rest => dropComments (c != '\n') rest
  | false, c :: rest =>
    if Unicode.isBlank c then dropComments false rest
    else if c = '#' then dropComments true rest
    else c :: rest

/-- What comes next, behind white space and comments in verbose mode. -/
def upcoming (verbose : Bool) (text : List Char) : List Char :=
  if verbose then dropComments false text else text

def hexLiteral? (byte : Bool) (digits : List Char) : Option Escape :=
  let code := Text.hexValue digits
  if digits ≠ [] ∧ digits.all Text.isHexDigit ∧ code.isValidChar then some (.literal code byte)
  else none

def readExactly (verbose : Bool) : Nat → List Char → Option (List Char × List Char)
  | 0, text => some ([], text)
  | n + 1, text =>
    match upcoming verbose text with
    | [] => none
    | c :: rest => do
      let (read, rest) ← readExactly verbose n rest
      return (c :: read, rest)

/-- Reads up to and over a closing brace; `fuel` bounds the number of characters. -/
def readBraced (verbose : Bool) : Nat → List Char → Option (List Char × List Char)
  | 0, _ => none
  | fuel + 1, text =>
    match upcoming verbose text with
    | [] => none
    | '}' :: rest => some ([], rest)
    | c :: rest => do
      let (read, rest) ← readBraced verbose fuel rest
      return (c :: read, rest)

/-- A code point: some digits, or any number of them in braces. Two digits stand for a byte. -/
def hexEscape? (verbose : Bool) (count : Nat) (text : List Char) :
    Option (Escape × List Char) :=
  match upcoming verbose text with
  | '{' :: rest => do
    let (digits, rest) ← readBraced verbose (rest.length + 1) rest
    return (← hexLiteral? false digits, rest)
  | text => do
    let (digits, rest) ← readExactly verbose count text
    return (← hexLiteral? (count = 2) digits, rest)

/-- A set of characters, or those that are not in it. -/
def polarity (negated : Bool) (ranges : Ranges) : Ranges :=
  if negated then ranges.complement else ranges

/-- The characters that differ from some in case only come to them where case does not count. -/
def Flags.fold (flags : Flags) (ranges : Ranges) : Ranges :=
  if flags.ignoresCase then folded flags.unicode ranges else ranges

/-- Reads what property is meant: one letter, or a name in braces. -/
def namedProperty? (verbose : Bool) (text : List Char) : Option ((Ranges × Bool) × List Char) :=
  match upcoming verbose text with
  | [] => none
  | '{' :: rest => do
    let (name, rest) ← readBraced verbose (rest.length + 1) rest
    return (← property? name, rest)
  | c :: rest => return ((← class? [c], false), rest)

/-- A set by property. Only Unicode has properties. -/
def propertyEscape? (flags : Flags) (negated : Bool) (text : List Char) :
    Option (Escape × List Char) := do
  let ((ranges, opposite), rest) ← namedProperty? flags.verbose text
  if flags.unicode then
    return (.set (polarity (negated != opposite) (flags.fold ranges)), rest)
  else none

def letterSet? (flags : Flags) (negated : Bool) (all ascii : Ranges) : Option Escape :=
  if flags.unicode then some (.set (polarity negated all))
  else if negated then none
  else some (.set ascii)

/-- The names in braces that `\b` takes. -/
def placeNames : List (List Char × WordPlace) :=
  [("start".toList, .start), ("end".toList, .finish), ("start-half".toList, .startHalf),
   ("end-half".toList, .finishHalf)]

/-- What follows `\b`: a name in braces, or something else, such as a count. -/
def boundaryEscape? (flags : Flags) (text : List Char) : Option (Escape × List Char) :=
  let boundary := some (Escape.look (.word .boundary flags.unicode), text)
  match text with
  | '{' :: rest =>
    match upcoming flags.verbose rest with
    | [] => none
    | c :: behind =>
      if c.isAlpha || c = '-' then do
        let (name, rest) ← readBraced flags.verbose (rest.length + 1) (c :: behind)
        return (.look (.word (← placeNames.lookup name) flags.unicode), rest)
      else boundary
  | _ => boundary

/-- Reads an escape, from behind its backslash. Letters and digits have a meaning or are refused;
other ASCII characters save `<` and `>`, which bound words, stand for themselves. -/
def escape? (flags : Flags) : List Char → Option (Escape × List Char)
  | [] => none
  | c :: rest =>
    let letter (negated : Bool) (all ascii : Ranges) :=
      (letterSet? flags negated all ascii).map (·, rest)
    let place (place : WordPlace) := some (Escape.look (.word place flags.unicode), rest)
    match c with
    | 'x' => hexEscape? flags.verbose 2 rest
    | 'u' => hexEscape? flags.verbose 4 rest
    | 'U' => hexEscape? flags.verbose 8 rest
    | 'p' | 'P' => propertyEscape? flags (c = 'P') rest
    | 'd' | 'D' => letter (c = 'D') digitRanges [(0x30, 0x39)]
    | 's' | 'S' => letter (c = 'S') spaceRanges [(0x9, 0xD), (0x20, 0x20)]
    | 'w' | 'W' =>
      letter (c = 'W') wordRanges [(0x30, 0x39), (0x41, 0x5A), (0x5F, 0x5F), (0x61, 0x7A)]
    | 'a' => some (.literal 7 false, rest)
    | 't' => some (.literal 9 false, rest)
    | 'n' => some (.literal 10 false, rest)
    | 'v' => some (.literal 11 false, rest)
    | 'f' => some (.literal 12 false, rest)
    | 'r' => some (.literal 13 false, rest)
    | 'b' => boundaryEscape? flags rest
    | 'B' => place .inside
    | '<' => place .start
    | '>' => place .finish
    | 'A' => some (.look .textStart, rest)
    | 'z' => some (.look .textEnd, rest)
    | _ => if c.isAlphanum || 128 ≤ c.toNat then none else some (.literal c.toNat false, rest)

end DocChain.Pattern
