import DocChain.Pattern.Escape

/-!
# Bracketed classes in patterns

A class holds characters, ranges, escapes, named classes and nested classes, with the operators
`&&`, `--` and `~~` between groups of them. It is read to its set of characters and to the depth
to which it nests.
-/

namespace DocChain.Pattern

open DocChain.Unicode

/-- A part of a class: how deep it nests, and its characters. -/
structure ClassPart where
  depth : Nat
  ranges : Ranges

/-- What stands between groups of parts, and binds to the left. -/
inductive SetOperator where
  | intersection | difference | symmetricDifference

def SetOperator.apply : SetOperator → Ranges → Ranges → Ranges
  | intersection => Ranges.intersection
  | difference => Ranges.difference
  | symmetricDifference => Ranges.symmetricDifference

def groupDepth : List Nat → Nat
  | [] => 0
  | [depth] => depth
  | depths => 1 + depths.foldl max 0

def ClassPart.ofParts (parts : List ClassPart) : ClassPart :=
  ⟨groupDepth (parts.map ClassPart.depth),
    Ranges.normal (parts.map ClassPart.ranges).flatten⟩

/-- A group of parts with what stands left of it. -/
def ClassPart.combined (flags : Flags) (left : Option (ClassPart × SetOperator))
    (parts : List ClassPart) : ClassPart :=
  let right := ofParts parts
  match left with
  | none => right
  | some (left, operator) =>
    ⟨1 + max left.depth right.depth,
      Ranges.normal (operator.apply (flags.fold left.ranges) (flags.fold right.ranges))⟩

/-- The characters in a class or, if it is negated, those outside. Without Unicode nothing outside
can be meant. -/
def closedSet? (flags : Flags) (negated : Bool) (ranges : Ranges) : Option Ranges :=
  if negated && !flags.unicode then none
  else some (polarity negated (flags.fold ranges))

/-- The classes with a name, such as `[:alpha:]`. -/
def namedClasses : List (List Char × Ranges) :=
  [("alnum".toList, [(0x30, 0x39), (0x41, 0x5A), (0x61, 0x7A)]),
   ("alpha".toList, [(0x41, 0x5A), (0x61, 0x7A)]),
   ("ascii".toList, [(0, 0x7F)]),
   ("blank".toList, [(0x9, 0x9), (0x20, 0x20)]),
   ("cntrl".toList, [(0, 0x1F), (0x7F, 0x7F)]),
   ("digit".toList, [(0x30, 0x39)]),
   ("graph".toList, [(0x21, 0x7E)]),
   ("lower".toList, [(0x61, 0x7A)]),
   ("print".toList, [(0x20, 0x7E)]),
   ("punct".toList, [(0x21, 0x2F), (0x3A, 0x40), (0x5B, 0x60), (0x7B, 0x7E)]),
   ("space".toList, [(0x9, 0xD), (0x20, 0x20)]),
   ("upper".toList, [(0x41, 0x5A)]),
   ("word".toList, [(0x30, 0x39), (0x41, 0x5A), (0x5F, 0x5F), (0x61, 0x7A)]),
   ("xdigit".toList, [(0x30, 0x39), (0x41, 0x46), (0x61, 0x66)])]

/-- Reads a class such as `[:alpha:]` or, negated, `[:^alpha:]`, from behind its bracket. -/
def namedClass? (text : List Char) : Option ((Ranges × Bool) × List Char) :=
  match text with
  | ':' :: rest =>
    let negated := rest.head? = some '^'
    let rest := if negated then rest.drop 1 else rest
    match rest.dropWhile (· != ':') with
    | ':' :: ']' :: behind => do
      let ranges ← namedClasses.lookup (rest.takeWhile (· != ':'))
      return ((ranges, negated), behind)
    | _ => none
  | _ => none

def characterPart (code : Nat) : ClassPart :=
  ⟨0, [Ranges.single code]⟩

/-- Reads the hyphens at the head of a class; `fuel` bounds their number. -/
def leadingHyphens (verbose : Bool) :
    Nat → List ClassPart → List Char → List ClassPart × List Char
  | 0, parts, text => (parts, text)
  | fuel + 1, parts, text =>
    match text with
    | '-' :: rest =>
      leadingHyphens verbose fuel (characterPart 0x2D :: parts) (upcoming verbose rest)
    | _ => (parts, text)

/-- Reads the head of a class from behind its bracket: the negation, hyphens, and a closing bracket
that stands for itself because nothing comes before it. -/
def classHead (verbose : Bool) (text : List Char) : Bool × List ClassPart × List Char :=
  let text := upcoming verbose text
  let negated := text.head? = some '^'
  let text := if negated then upcoming verbose (text.drop 1) else text
  match leadingHyphens verbose text.length [] text with
  | ([], ']' :: rest) => (negated, [characterPart 0x5D], upcoming verbose rest)
  | head => (negated, head)

/-- One end of a range, or a part on its own. Without Unicode a character is of ASCII. -/
def classItem? (flags : Flags) (text : List Char) : Option (Escape × List Char) := do
  let (item, rest) ← match text with
    | [] => none
    | '\\' :: rest => escape? flags rest
    | c :: rest => some (.literal c.toNat false, rest)
  match item with
  | .literal code _ => if flags.unicode || code < 0x80 then some (item, rest) else none
  | _ => some (item, rest)

/-- A part that stands alone; a look takes no character and is none. -/
def aloneRanges? : Escape → Option Ranges
  | .literal code _ => some [Ranges.single code]
  | .set ranges => some ranges
  | .look _ => none

def classPart? (flags : Flags) (text : List Char) : Option (ClassPart × List Char) := do
  let (first, rest) ← classItem? flags text
  let alone := (aloneRanges? first).map fun ranges =>
    (ClassPart.mk 0 ranges, upcoming flags.verbose rest)
  match upcoming flags.verbose rest with
  | [] => none
  | '-' :: behind =>
    match (upcoming flags.verbose behind).head? with
    | some ']' | some '-' => alone
    | _ => do
      let (last, rest) ← classItem? flags (upcoming flags.verbose behind)
      match first, last with
      | .literal a _, .literal b _ => if a ≤ b then some (⟨0, [(a, b)]⟩, rest) else none
      | _, _ => none
  | _ => alone

/-- Reads a class from behind its head up to and over its closing bracket; `fuel` bounds the number
of parts. -/
def classBody? (flags : Flags) :
    Nat → (left : Option (ClassPart × SetOperator)) → (parts : List ClassPart) → List Char →
    Option (ClassPart × List Char)
  | 0, _, _, _ => none
  | fuel + 1, left, parts, text =>
    let operator (operator : SetOperator) (rest : List Char) :=
      classBody? flags fuel (some (ClassPart.combined flags left parts, operator)) [] rest
    match upcoming flags.verbose text with
    | [] => none
    | ']' :: rest => some (ClassPart.combined flags left parts, rest)
    | '&' :: '&' :: rest => operator .intersection rest
    | '-' :: '-' :: rest => operator .difference rest
    | '~' :: '~' :: rest => operator .symmetricDifference rest
    | '[' :: rest =>
      match namedClass? rest with
      | some ((ranges, negated), rest) => do
        let ranges ← closedSet? flags negated ranges
        classBody? flags fuel left (⟨0, ranges⟩ :: parts) rest
      | none => do
        let (negated, inner, rest) := classHead flags.verbose rest
        let (part, rest) ← classBody? flags fuel none inner rest
        let ranges ← closedSet? flags negated part.ranges
        classBody? flags fuel left (⟨1 + part.depth, ranges⟩ :: parts) rest
    | text => do
      let (part, rest) ← classPart? flags text
      classBody? flags fuel left (part :: parts) rest

def characterClass? (flags : Flags) (text : List Char) : Option (ClassPart × List Char) := do
  let (negated, parts, rest) := classHead flags.verbose text
  let (part, rest) ← classBody? flags (rest.length + 1) none parts rest
  return (⟨1 + part.depth, ← closedSet? flags negated part.ranges⟩, rest)

end DocChain.Pattern
