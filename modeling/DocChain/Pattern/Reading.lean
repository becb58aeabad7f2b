import DocChain.Pattern.CharacterClass
import DocChain.Pattern.Regular
import DocChain.Unicode.Alphabetic
import DocChain.Unicode.Numeric

/-!
# Reading patterns

A pattern is read to the regular expression it stands for. Brackets and groups have to close,
repetitions need something to repeat and counts that make sense, group names have to be new,
escapes and flags known. There is no look-around and no reference to a group.
-/

namespace DocChain.Pattern

open DocChain.Unicode

/-- A part of a pattern: how deep it nests, and what it means. -/
structure Part where
  depth : Nat
  meaning : Regular

/-- What can precede a repetition: flags, which cannot be repeated, or an expression. -/
inductive Item where
  | flags
  | expression (part : Part)

def Item.part : Item → Part
  | .flags => ⟨0, .empty⟩
  | .expression part => part

/-- What is kept of an open group: what stands before it and, if it is numbered, its number. -/
structure Frame where
  items : List Item
  branches : List Part
  flags : Flags
  number : Option Nat

/-- The state of a reading. Items and branches are in reverse order. -/
structure Reading where
  rest : List Char
  flags : Flags := {}
  items : List Item := []
  branches : List Part := []
  frames : List Frame := []
  groups : Nat := 0
  names : List (List Char) := []

namespace Reading

def branch (r : Reading) : Part :=
  let parts := r.items.reverse.map Item.part
  ⟨groupDepth (parts.map Part.depth), Regular.ofParts (parts.map Part.meaning)⟩

def whole (r : Reading) : Part :=
  match r.branches with
  | [] => r.branch
  | branches =>
    let branches := (r.branch :: branches).reverse
    ⟨1 + (branches.map Part.depth).foldl max 0,
      Regular.ofBranches (branches.map Part.meaning)⟩

/-- Adds an expression that takes one character or none and goes on behind it. -/
def add (r : Reading) (meaning : Regular) (rest : List Char) : Reading :=
  { r with items := .expression ⟨0, meaning⟩ :: r.items, rest }

/-- Adds a character. Without Unicode a byte beyond ASCII is no whole character. -/
def addCharacter? (r : Reading) (code : Nat) (byte : Bool) (rest : List Char) : Option Reading :=
  if byte && 0x80 ≤ code && !r.flags.unicode then none
  else
    some (r.add (Regular.ofSet (r.flags.fold [Ranges.single code]) r.flags.unicode) rest)

/-- Adds what the dot stands for, which without Unicode would take bytes. -/
def addDot? (r : Reading) (rest : List Char) : Option Reading :=
  let excluded : Ranges :=
    if r.flags.dotMatchesAll then []
    else if r.flags.crlf then [(0xA, 0xA), (0xD, 0xD)]
    else [(0xA, 0xA)]
  if r.flags.unicode then some (r.add (Regular.ofSet excluded.complement true) rest) else none

def addEscape? (r : Reading) (escape : Escape) (rest : List Char) : Option Reading :=
  match escape with
  | .literal code byte => r.addCharacter? code byte rest
  | .set ranges => some (r.add (Regular.ofSet ranges r.flags.unicode) rest)
  | .look kind => some (r.add (.look kind) rest)

def enter (r : Reading) (number : Option Nat) (flags : Flags) (rest : List Char) : Reading :=
  { r with
    rest, flags, items := [], branches := []
    frames := ⟨r.items, r.branches, r.flags, number⟩ :: r.frames }

def enterNumbered (r : Reading) (rest : List Char) : Reading :=
  { r.enter (some r.groups) r.flags rest with groups := r.groups + 1 }

/-! ### Groups -/

def startsGroupName (c : Char) : Bool :=
  Unicode.isAlphabetic c || c = '_'

def continuesGroupName (c : Char) : Bool :=
  Unicode.isAlphabetic c || Unicode.isNumeric c || "_.[]".toList.contains c

/-- Enters a group whose name begins here. -/
def enterNamed? (r : Reading) (text : List Char) : Option Reading :=
  let name := text.takeWhile (· != '>')
  match text.dropWhile (· != '>') with
  | [] => none
  | _ :: rest =>
    if name.head?.any startsGroupName && name.all continuesGroupName && !r.names.contains name then
      some { r.enterNumbered rest with names := name :: r.names }
    else none

/-- Reads flags, which stand for the rest of the group or open a group of their own. -/
def flags? (r : Reading) (text : List Char) : Option Reading :=
  let inside (c : Char) : Bool := c != ':' && c != ')'
  let letters := text.takeWhile inside
  let flags := r.flags.update letters
  if !Flags.lettersValid letters then none
  else match text.dropWhile inside with
    | ':' :: rest => some (r.enter none flags rest)
    | ')' :: rest =>
      if letters.isEmpty then none
      else some { r with items := .flags :: r.items, rest, flags }
    | _ => none

/-- Reads on behind an opening parenthesis. -/
def group? (r : Reading) (text : List Char) : Option Reading :=
  match upcoming r.flags.verbose text with
  | '?' :: '=' :: _ | '?' :: '!' :: _ => none
  | '?' :: '<' :: '=' :: _ | '?' :: '<' :: '!' :: _ => none
  | '?' :: 'P' :: '<' :: rest | '?' :: '<' :: rest => r.enterNamed? rest
  | '?' :: rest => r.flags? rest
  | rest => some (r.enterNumbered rest)

def leave? (r : Reading) (rest : List Char) : Option Reading :=
  match r.frames with
  | [] => none
  | frame :: frames =>
    let inner := r.whole
    let meaning := match frame.number with
      | some number => .group number inner.meaning
      | none => inner.meaning
    some { r with
      rest, frames
      flags := frame.flags
      items := .expression ⟨1 + inner.depth, meaning⟩ :: frame.items
      branches := frame.branches }

/-! ### Repetitions -/

/-- Repeats the last item and goes on behind the repetition, which a question mark makes lazy. -/
def repeated? (r : Reading) (least : Nat) (greatest : Option Nat) (rest : List Char) :
    Option Reading :=
  match r.items with
  | .expression part :: items =>
    let lazy := rest.head? = some '?'
    let rest := if lazy then rest.drop 1 else rest
    let meaning := Regular.ofRepetition least greatest (lazy = r.flags.swapsGreed) part.meaning
    some { r with items := .expression ⟨1 + part.depth, meaning⟩ :: items, rest }
  | _ => none

/-- Reads the digits of a number, between which verbose mode allows space; `fuel` bounds them. -/
def digits (verbose : Bool) : Nat → List Char → List Char × List Char
  | 0, text => ([], text)
  | fuel + 1, text =>
    match text with
    | [] => ([], [])
    | c :: rest =>
      if c.isDigit then
        let (digits, rest) := digits verbose fuel (upcoming verbose rest)
        (c :: digits, rest)
      else ([], text)

/-- Reads a number of 32 bits with white space around it. -/
def count? (verbose : Bool) (text : List Char) : Option (Nat × List Char) :=
  let text := text.dropWhile Unicode.isBlank
  let (read, rest) := digits verbose text.length text
  let value := read.foldl (fun value digit => 10 * value + (digit.toNat - 48)) 0
  if read.isEmpty || 2 ^ 32 ≤ value then none
  else some (value, upcoming verbose (rest.dropWhile Unicode.isBlank))

/-- Reads a repetition count from behind its opening brace. -/
def counted? (r : Reading) (text : List Char) : Option Reading := do
  let upcoming := upcoming r.flags.verbose
  let (least, rest) ← count? r.flags.verbose (upcoming text)
  match rest with
  | '}' :: rest => r.repeated? least (some least) (upcoming rest)
  | ',' :: rest =>
    match upcoming rest with
    | '}' :: rest => r.repeated? least none (upcoming rest)
    | rest => do
      let (greatest, rest) ← count? r.flags.verbose rest
      match rest with
      | '}' :: rest =>
        if least ≤ greatest then r.repeated? least (some greatest) (upcoming rest) else none
      | _ => none
  | _ => none

/-! ### The whole pattern -/

/-- Reads one item from the character `c` on. -/
def step? (r : Reading) (c : Char) (rest : List Char) : Option Reading :=
  match c with
  | '(' => r.group? rest
  | ')' => r.leave? rest
  | '|' => some { r with rest, items := [], branches := r.branch :: r.branches }
  | '[' => do
    let (part, rest) ← characterClass? r.flags rest
    let meaning := Regular.ofSet part.ranges r.flags.unicode
    return { r with items := .expression ⟨part.depth, meaning⟩ :: r.items, rest }
  | '?' => r.repeated? 0 (some 1) rest
  | '*' => r.repeated? 0 none rest
  | '+' => r.repeated? 1 none rest
  | '{' => r.counted? rest
  | '\\' => do
    let (escape, rest) ← escape? r.flags rest
    r.addEscape? escape rest
  | '.' => r.addDot? rest
  | '^' => some (r.add (.look r.flags.startLook) rest)
  | '$' => some (r.add (.look r.flags.endLook) rest)
  | _ => r.addCharacter? c.toNat false rest

/-- Reads all items; `fuel` bounds their number. -/
def run? : Nat → Reading → Option Reading
  | 0, _ => none
  | fuel + 1, r =>
    match upcoming r.flags.verbose r.rest with
    | [] => some r
    | c :: rest => do run? fuel (← r.step? c rest)

end Reading

/-- The whole of a pattern, in which all groups are closed. -/
def read? (text : List Char) : Option Part := do
  let r ← Reading.run? (text.length + 1) { rest := text }
  if r.frames.isEmpty then some r.whole else none

end DocChain.Pattern
