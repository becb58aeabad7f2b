import DocChain.Pattern.Regular

/-!
# Patterns that are lists of texts

A pattern that matches a few texts and nothing else is searched for by looking for the texts, and
so is a choice between very many. `Regular.isTextList` tells which patterns these are. What a match
begins with is collected up to limits on the number and the length of the texts; where a limit cuts
a text, or more can follow it, the text is not exact.
-/

namespace DocChain.Pattern

open DocChain.Unicode

/-- The bytes that a match begins with; exact if they are the whole match. -/
structure Opening where
  bytes : List Nat
  exact : Bool

/-- What the matches begin with, or nothing where that can be too much to list. -/
abbrev Openings := Option (List Opening)

namespace Openings

/-- The greatest number of openings. -/
def countLimit : Nat := 250

/-- The greatest number of bytes of an opening. -/
def lengthLimit : Nat := 100

/-- The greatest number of members of a set that are listed. -/
def setLimit : Nat := 10

/-- The greatest number of times that a part is repeated. -/
def repetitionLimit : Nat := 10

def cut (length : Nat) (openings : List Opening) : List Opening :=
  openings.map fun o => ⟨o.bytes.take length, o.exact && o.bytes.length ≤ length⟩

def inexact (openings : List Opening) : List Opening :=
  openings.map fun o => ⟨o.bytes, false⟩

def allExact (openings : List Opening) : Bool :=
  openings.all (·.exact)

def isSettled (openings : Openings) : Bool :=
  match openings with
  | none => true
  | some openings => openings.all (!·.exact)

/-- Openings with those made one that follow each other and have the same bytes. -/
def distinct : List Opening → List Opening
  | [] => []
  | o :: rest =>
    match distinct rest with
    | [] => [o]
    | next :: others =>
      if o.bytes = next.bytes then ⟨o.bytes, o.exact && next.exact⟩ :: others
      else o :: next :: others

/-- The openings of a choice between two expressions. Where they are too many, they are cut. -/
def union (left right : Openings) : Openings := do
  let left ← left
  let right ← right
  if left.length + right.length ≤ countLimit then some (distinct (left ++ right))
  else
    let left := distinct (cut 4 left)
    let right := distinct (cut 4 right)
    if left.length + right.length ≤ countLimit then some (distinct (left ++ right)) else none

/-- The openings of one expression behind another. -/
def cross (left right : Openings) : Openings := do
  let left ← left
  match right.filter fun right => left.length * right.length ≤ countLimit with
  | none => if left.any (·.bytes.isEmpty) then none else some (cut lengthLimit (inexact left))
  | some right =>
    some <| cut lengthLimit <| distinct <| left.flatMap fun o =>
      if o.exact then right.map fun next => ⟨o.bytes ++ next.bytes, next.exact⟩ else [o]

def nothing : Openings := some [⟨[], true⟩]

def times (part : Openings) : (count : Nat) → Openings → Openings
  | 0, openings => openings
  | count + 1, openings =>
    if isSettled openings then openings else times part count (cross openings part)

def repetition (least : Nat) (greatest : Option Nat) (greedy : Bool) (part : Openings) : Openings :=
  if least = 0 then
    let part := if greatest = some 1 then part else part.map inexact
    if greedy then union part nothing else union nothing part
  else
    let openings := times part (min least repetitionLimit) nothing
    if greatest = some least ∧ least ≤ repetitionLimit then openings else openings.map inexact

/-- The openings of a set: its members, if they are few. -/
def ofSet (ranges : Ranges) : Openings :=
  if setLimit < ranges.foldl (fun count r => count + (r.2 - r.1 + 1)) 0 then none
  else
    some <| ranges.flatMap fun r =>
      (List.range' r.1 (r.2 - r.1 + 1)).map fun code => ⟨utf8 code, true⟩

end Openings

mutual

def Regular.openings : Regular → Openings
  | .empty | .look _ => Openings.nothing
  | .literal codes => some (Openings.cut Openings.lengthLimit [⟨codes.flatMap utf8, true⟩])
  | .set ranges _ => Openings.ofSet ranges
  | .repetition least greatest greedy part =>
    Openings.repetition least greatest greedy part.openings
  | .group _ part => part.openings
  | .sequence parts => sequenceOpenings parts Openings.nothing
  | .choice branches => choiceOpenings branches (some [])

/-- The openings of parts behind what has been read. -/
def sequenceOpenings : List Regular → Openings → Openings
  | [], openings => openings
  | part :: rest, openings =>
    if Openings.isSettled openings then openings
    else sequenceOpenings rest (Openings.cross openings part.openings)

/-- The openings of branches beside those of other branches. -/
def choiceOpenings : List Regular → Openings → Openings
  | [], openings => openings
  | branch :: rest, openings =>
    if openings.isNone then none
    else choiceOpenings rest (Openings.union openings branch.openings)

end

namespace Openings

/-- The openings without those that begin with an earlier one. -/
def preferred (openings : List Opening) : List Opening :=
  let kept := openings.foldl (fun kept o =>
    if kept.any fun earlier => earlier.bytes.isPrefixOf o.bytes then kept else o :: kept) []
  kept.reverse

def shared : List Nat → List Nat → List Nat
  | a :: left, b :: right => if a = b then a :: shared left right else []
  | _, _ => []

def sharedByAll (openings : List Opening) : List Nat :=
  match openings with
  | [] => []
  | o :: rest => rest.foldl (fun start next => shared start next.bytes) o.bytes

/-- The bytes that occur so often that it does not help to look for one of them. -/
def frequentBytes : Ranges :=
  [(0x0A, 0x0A), (0x0D, 0x0D), (0x20, 0x20), (0x28, 0x29), (0x2C, 0x32), (0x39, 0x3A),
   (0x5F, 0x5F), (0x61, 0x69), (0x6C, 0x70), (0x72, 0x76), (0x78, 0x79), (0x7C, 0x7C),
   (0x80, 0x84), (0x90, 0x90), (0xB1, 0xB1), (0xB5, 0xB7), (0xB9, 0xBD), (0xBF, 0xFF)]

/-- Cuts openings as long as they are too many; each step gives a length and the number that is not
too many for it. -/
def shrunk : (steps : List (Nat × Nat)) → List Opening → List Opening
  | [], openings => openings
  | (length, enough) :: steps, openings =>
    if openings.length ≤ enough then openings
    else shrunk steps (preferred (cut length openings))

/-- Whether exact openings stay exact where fewer and shorter ones would do. They are only cut if
what is left is neither short nor much. -/
def staysExact (openings : List Opening) : Bool :=
  let few := shrunk [(5, 10), (4, 10), (3, 64), (2, 64), (1, 10)] openings
  allExact few || few.any (·.bytes.length ≤ 2) || 64 < few.length

/-- Whether the openings are exact and are kept to be searched for. A short common start that begins
with a rare byte is searched for alone, and so is a long one. -/
def areTexts (openings : List Opening) : Bool :=
  let kept := preferred openings
  let start := sharedByAll kept
  let rare := start.head?.any fun byte => !frequentBytes.contains byte
  if openings.isEmpty || openings.any (·.bytes.isEmpty) || !allExact kept then false
  else if 1 < openings.length ∧ start.length ≤ 3 ∧ rare then
    kept.all (·.bytes.length ≤ 1)
  else if 4 < start.length || (1 < start.length && 16 < kept.length) then
    kept.length = 1
  else staysExact kept

end Openings

mutual

def Regular.isPlain : Regular → Bool
  | .group _ _ | .look _ => false
  | .repetition _ _ _ part => part.isPlain
  | .sequence parts => allPlain parts
  | .choice branches => allPlain branches
  | _ => true

def allPlain : List Regular → Bool
  | [] => true
  | r :: rest => r.isPlain && allPlain rest

end

def textsOf? (branches : List Regular) : Option (List (List Nat)) :=
  branches.mapM fun
    | .literal codes => some (codes.flatMap utf8)
    | _ => none

/-- The number of texts from which on a choice between them is a dictionary. -/
def dictionaryLength : Nat := 3000

def Regular.isDictionary : Regular → Bool
  | .choice branches => dictionaryLength ≤ branches.length && (textsOf? branches).isSome
  | _ => false

def Regular.isTextList (r : Regular) : Bool :=
  r.isDictionary || (r.isPlain && r.openings.any Openings.areTexts)

end DocChain.Pattern
