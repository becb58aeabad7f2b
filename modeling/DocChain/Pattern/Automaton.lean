import Std.Data.HashMap
import DocChain.Pattern.Texts

/-!
# The size of the automaton of a pattern

A pattern is matched by an automaton over bytes, once for reading forward and once for reading
backward, and neither may grow beyond a limit. `Regular.automaton?` counts its states and their
bytes. The count ends as soon as the limit is passed, so a great repetition costs no more than one
that just fits. `Regular.fits` says that both are small enough.
-/

namespace DocChain.Pattern

open DocChain.Unicode

inductive Direction where
  | forward | backward
deriving DecidableEq

/-- The states so far and the bytes they take. -/
structure Size where
  states : Nat := 0
  bytes : Nat := 0

namespace Size

/-- The greatest number of bytes: ten mebibytes. -/
def limit : Nat := 10 * 2 ^ 20

/-- Adds states of 32 bytes with further bytes for all of them, if the limit allows it. -/
def add? (s : Size) (states : Nat) (further : Nat) : Option Size :=
  let bytes := s.bytes + 32 * states + further
  if bytes ≤ limit then some ⟨s.states + states, bytes⟩ else none

def transitions (count : Nat) : Nat := 8 * count

def alternatives (count : Nat) : Nat := 4 * count

def addTimes? (add : Size → Option Size) : (count : Nat) → Size → Option Size
  | 0, s => some s
  | count + 1, s =>
    match add s with
    | some s => addTimes? add count s
    | none => none

end Size

/-! ### Sets of characters -/

/-- The states of a set that can be used again, by their contents. Of the contents that share a
slot only the last are kept. -/
abbrev SharedStates := Std.HashMap Nat (List Nat × Nat)

def forwardSlots : Nat := 10000

def backwardSlots : Nat := 1000

/-- The slot of a content among so many: the hash FNV-1a of its numbers in 64 bits. -/
def slotOf (slots : Nat) (content : List Nat) : Nat :=
  let hash := content.foldl (fun hash n => (hash ^^^ n.toUInt64) * 1099511628211)
    (14695981039346656037 : UInt64)
  hash.toNat % slots

structure SetSize where
  size : Size
  shared : SharedStates := {}

/-- A new state with some content, kept in its slot. -/
def SetSize.fresh? (s : SetSize) (slot : Nat) (content : List Nat) (further : Nat) :
    Option (Nat × SetSize) :=
  match s with
  | ⟨size, shared⟩ => do
    let extended ← size.add? 1 further
    return (size.states, ⟨extended, shared.insert slot (content, size.states)⟩)

/-- A state with some content: one that is there, or a new one. -/
def SetSize.state? (s : SetSize) (slots : Nat) (content : List Nat) (further : Nat) :
    Option (Nat × SetSize) :=
  let slot := slotOf slots content
  match s.shared[slot]? with
  | some (known, state) =>
    if known = content then some (state, s) else s.fresh? slot content further
  | none => s.fresh? slot content further

/-- The state from which sequences of bytes lead to `goal`, the states behind it first. Sequences
that begin with the same range share their first transition. -/
def SetSize.tree? (goal : Nat) : (length : Nat) → List ByteSequence → SetSize →
    Option (Nat × SetSize)
  | 0, _, s => some (goal, s)
  | length + 1, sequences, s =>
    match sequences with
    | [] :: _ => some (goal, s)
    | _ => do
      let groups := sequences.splitBy fun a b => a.head? == b.head?
      let (content, s) ← groups.foldlM (fun (content, s) group => do
        let (next, s) ← SetSize.tree? goal length (group.map List.tail) s
        let (first, last) := (group.head?.bind List.head?).getD (0, 0)
        return (content ++ [first, last, next], s)) (([] : List Nat), s)
      s.state? forwardSlots content (Size.transitions groups.length)

/-- The states for reading a sequence backward, from `goal` on: the last of them reads the last
range. -/
def SetSize.chain? (goal : Nat) (sequence : ByteSequence) (s : SetSize) : Option (Nat × SetSize) :=
  sequence.foldlM (fun (state, s) range =>
    s.state? backwardSlots [state, range.1, range.2] 0) (goal, s)

/-- Adds the states of a set. One state reads all that is of ASCII; otherwise sequences of bytes
are read, forward along a tree and backward each by its chain. -/
def Size.addSet? (direction : Direction) (ranges : Ranges) (s : Size) : Option Size :=
  let sequences := utf8Sequences ranges
  if ranges.all (·.2 < 0x80) then s.add? 2 (transitions ranges.length)
  else
    match direction with
    | .forward => do
      let (_, built) ← SetSize.tree? s.states 4 sequences ⟨← s.add? 1 0, {}⟩
      return built.size
    | .backward => do
      let goal := s.states + 1
      let ends := SetSize.mk (← s.add? 2 (alternatives sequences.length)) {}
      let built ← sequences.foldlM (fun built sequence =>
        return (← built.chain? goal sequence).2) ends
      return built.size

/-! ### Choices between texts -/

/-- The words up to each empty one, which is left out, and those behind the last. -/
def splitAtEmpty : List (List Nat) → List (List (List Nat))
  | [] => [[]]
  | [] :: rest => [] :: splitAtEmpty rest
  | word :: rest =>
    match splitAtEmpty rest with
    | words :: others => (word :: words) :: others
    | [] => [[word]]

/-- The words that begin with a byte, without it. -/
def wordsBehind (byte : Nat) (words : List (List Nat)) : List (List Nat) :=
  words.filterMap fun
    | b :: rest => if b = byte then some rest else none
    | [] => none

/-- The states, and their further bytes, for a choice between words. Words share what they begin
with, unless a word between them ends there. `length` bounds the words. -/
def wordsSize : (length : Nat) → List (List Nat) → Nat × Nat
  | 0, _ => (0, 0)
  | length + 1, words =>
    if words.all List.isEmpty then (0, 0)
    else
      let ended := words.takeWhile List.isEmpty
      let runs := splitAtEmpty (ended.take 1 ++ words.drop ended.length)
      let full := runs.filter fun run => !run.isEmpty
      let behind := full.flatMap fun run =>
        let heads := (run.filterMap List.head?).eraseDups
        let own := if heads.length = 1 then 0 else Size.transitions heads.length
        (1, own) :: heads.map fun byte => wordsSize length (wordsBehind byte run)
      behind.foldl (fun total part => (total.1 + part.1, total.2 + part.2))
        (1, Size.alternatives (full.length + (runs.length - 1)))

def Size.addWords? (words : List (List Nat)) (s : Size) : Option Size :=
  let (states, further) := wordsSize ((words.map List.length).foldl max 0 + 1) words
  s.add? (1 + states) further

/-! ### Whole patterns -/

/-- The texts of a choice, with their bytes in the order in which a direction reads them. -/
def wordsOf? (direction : Direction) (branches : List Regular) : Option (List (List Nat)) :=
  (textsOf? branches).map fun texts =>
    if direction = .forward then texts else texts.map List.reverse

/-- Adds a part as often as a repetition asks. Behind a part that may come again, or before one
that may be left out, a state chooses. -/
def Size.addRepetition? (least : Nat) (greatest : Option Nat) (neverEmpty : Bool)
    (add : Size → Option Size) (s : Size) : Option Size :=
  let choose (s : Size) := s.add? 1 (alternatives 2)
  let times (count : Nat) (s : Size) :=
    if count = 0 then s.add? 1 0 else s.addTimes? add count
  match greatest with
  | none =>
    if least = 0 then
      if neverEmpty then (choose s).bind add
      else do (← choose (← choose (← add s))).add? 1 0
    else (times least s).bind choose
  | some greatest =>
    if least = 0 ∧ greatest = 1 then do (← (choose s).bind add).add? 1 0
    else if least = greatest then times least s
    else do
      let s ← (← times least s).add? 1 0
      s.addTimes? (fun s => (choose s).bind add) (greatest - least)

mutual

/-- Adds the states of an expression. Groups are only told apart forward. -/
def Regular.build? (direction : Direction) : Regular → Size → Option Size
  | .empty, s | .look _, s => s.add? 1 0
  | .literal codes, s => s.add? (codes.flatMap utf8).length 0
  | .set ranges _, s => s.addSet? direction ranges
  | .repetition least greatest _ part, s =>
    let neverEmpty := part.minLength?.any (0 < ·)
    s.addRepetition? least greatest neverEmpty (part.build? direction)
  | .group _ part, s =>
    match direction with
    | .forward => do (← part.build? direction (← s.add? 1 0)).add? 1 0
    | .backward => part.build? direction s
  | .sequence parts, s => buildSequence? direction parts s
  | .choice branches, s =>
    match wordsOf? direction branches with
    | some words => s.addWords? words
    | none => buildBranches? direction 0 branches s

/-- Adds the parts of a sequence in the order in which they are read. -/
def buildSequence? (direction : Direction) : List Regular → Size → Option Size
  | [], s => some s
  | part :: rest, s =>
    match direction with
    | .forward => do buildSequence? direction rest (← part.build? direction s)
    | .backward => do part.build? direction (← buildSequence? direction rest s)

/-- Adds the branches of a choice, `built` of which are there. With the second comes the state that
chooses and the one in which the branches meet. -/
def buildBranches? (direction : Direction) (built : Nat) : List Regular → Size → Option Size
  | [], s => some s
  | branch :: rest, s => do
    let s ← branch.build? direction s
    let s ← match built with
      | 0 => some s
      | 1 => s.add? 2 (Size.alternatives 2)
      | _ => s.add? 0 (Size.alternatives 1)
    buildBranches? direction (built + 1) rest s

end

/-- The size of the automaton of a pattern: what seeks the place where a match begins, unless that
can only be where the reading begins, the match, and its end. -/
def Regular.automaton? (direction : Direction) (r : Regular) : Option Size :=
  let seek (anchored : Bool) : Option Size :=
    if anchored then Size.add? {} 1 0
    else Size.add? {} 3 (Size.alternatives 2 + Size.transitions 1)
  match direction with
  | .forward => do
    let s ← seek (r.beginsAt .textStart)
    (← r.build? .forward (← s.add? 1 0)).add? 2 0
  | .backward => do
    (← r.build? .backward (← seek (r.endsAt .textEnd))).add? 1 0

/-- Whether a pattern can be matched within the limit. A list of texts needs no automaton. -/
def Regular.fits (r : Regular) : Bool :=
  r.isTextList || ((r.automaton? .forward).isSome && (r.automaton? .backward).isSome)

end DocChain.Pattern
