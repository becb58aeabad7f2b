import DocChain.Pattern.Look
import DocChain.Pattern.Utf8

/-!
# Regular expressions

What a pattern means, in a form that the constructing functions keep simple: no sequence stands in
a sequence and no choice in a choice, characters that follow each other are one text, a choice
between characters is a set, and what the branches of a choice begin with in common stands before
it.
-/

namespace DocChain.Pattern

open DocChain.Unicode

inductive Regular where
  | empty
  | literal (codes : List Nat)
  /-- One character of a set, which was written with or without Unicode. -/
  | set (ranges : Ranges) (unicode : Bool)
  | look (kind : Look)
  | repetition (least : Nat) (greatest : Option Nat) (greedy : Bool) (part : Regular)
  | group (index : Nat) (part : Regular)
  | sequence (parts : List Regular)
  | choice (branches : List Regular)

namespace Regular

/-! ### Equality -/

mutual

def same : Regular → Regular → Bool
  | empty, empty => true
  | literal codes, literal codes' => codes == codes'
  | set ranges unicode, set ranges' unicode' => ranges == ranges' && unicode == unicode'
  | look kind, look kind' => kind == kind'
  | repetition least greatest greedy part, repetition least' greatest' greedy' part' =>
    least == least' && greatest == greatest' && greedy == greedy' && part.same part'
  | group index part, group index' part' => index == index' && part.same part'
  | sequence parts, sequence parts' => sameAll parts parts'
  | choice branches, choice branches' => sameAll branches branches'
  | _, _ => false

def sameAll : List Regular → List Regular → Bool
  | [], [] => true
  | r :: rest, r' :: rest' => r.same r' && sameAll rest rest'
  | _, _ => false

end

def sharedStart : List Regular → List Regular → List Regular
  | r :: rest, r' :: rest' => if r.same r' then r :: sharedStart rest rest' else []
  | _, _ => []

/-! ### Lengths and anchors -/

mutual

/-- The least number of bytes of a match; a set without members has none. -/
def minLength? : Regular → Option Nat
  | empty | look _ => some 0
  | literal codes => some (codes.flatMap utf8).length
  | set ranges _ => ranges.head?.map fun r => continuations r.1 + 1
  | repetition least _ _ part => part.minLength?.map (least * ·)
  | group _ part => part.minLength?
  | sequence parts => totalMinLength? parts
  | choice branches => leastMinLength? branches

def totalMinLength? : List Regular → Option Nat
  | [] => some 0
  | r :: rest => do return (← r.minLength?) + (← totalMinLength? rest)

def leastMinLength? : List Regular → Option Nat
  | [] => none
  | [r] => r.minLength?
  | r :: rest => do return min (← r.minLength?) (← leastMinLength? rest)

end

mutual

/-- The greatest number of bytes of a match, if there is one. -/
def maxLength? : Regular → Option Nat
  | empty | look _ => some 0
  | literal codes => some (codes.flatMap utf8).length
  | set ranges _ => ranges.getLast?.map fun r => continuations r.2 + 1
  | repetition _ greatest _ part => do return (← part.maxLength?) * (← greatest)
  | group _ part => part.maxLength?
  | sequence parts => totalMaxLength? parts
  | choice branches => greatestMaxLength? branches

def totalMaxLength? : List Regular → Option Nat
  | [] => some 0
  | r :: rest => do return (← r.maxLength?) + (← totalMaxLength? rest)

def greatestMaxLength? : List Regular → Option Nat
  | [] => none
  | [r] => r.maxLength?
  | r :: rest => do return max (← r.maxLength?) (← greatestMaxLength? rest)

end

mutual

/-- Whether a match begins at a place of this kind, as far as the form shows. -/
def beginsAt (kind : Look) : Regular → Bool
  | look kind' => kind' = kind
  | repetition least _ _ part => 0 < least && part.beginsAt kind
  | group _ part => part.beginsAt kind
  | sequence parts => sequenceBeginsAt kind parts
  | choice branches => allBeginAt kind branches
  | _ => false

/-- The parts that can take characters hide those behind them. -/
def sequenceBeginsAt (kind : Look) : List Regular → Bool
  | [] => false
  | r :: rest => r.beginsAt kind || (r.maxLength? = some 0 && sequenceBeginsAt kind rest)

def allBeginAt (kind : Look) : List Regular → Bool
  | [] => true
  | r :: rest => r.beginsAt kind && allBeginAt kind rest

end

mutual

/-- Whether a match ends at a place of this kind, as far as the form shows. -/
def endsAt (kind : Look) : Regular → Bool
  | look kind' => kind' = kind
  | repetition least _ _ part => 0 < least && part.endsAt kind
  | group _ part => part.endsAt kind
  | sequence parts => sequenceEndsAt kind parts
  | choice branches => allEndAt kind branches
  | _ => false

/-- The parts that can take characters hide those before them. -/
def sequenceEndsAt (kind : Look) : List Regular → Bool
  | [] => false
  | r :: rest =>
    sequenceEndsAt kind rest || (r.endsAt kind && rest.all fun r => r.maxLength? = some 0)

def allEndAt (kind : Look) : List Regular → Bool
  | [] => true
  | r :: rest => r.endsAt kind && allEndAt kind rest

end

/-! ### Construction -/

/-- One character of a set; one character alone is a text. -/
def ofSet (ranges : Ranges) (unicode : Bool) : Regular :=
  match ranges with
  | [] => set [] false
  | [(first, last)] => if first = last then literal [first] else set ranges unicode
  | _ => set ranges unicode

/-- A part repeated. What takes no characters is not repeated more than once. -/
def ofRepetition (least : Nat) (greatest : Option Nat) (greedy : Bool) (part : Regular) : Regular :=
  let takesNone := part.maxLength? = some 0
  let least := if takesNone then min least 1 else least
  let greatest := if takesNone then some (min (greatest.getD 1) 1) else greatest
  if greatest = some 0 then empty
  else if least = 1 ∧ greatest = some 1 then part
  else repetition least greatest greedy part

def factors : Regular → List Regular
  | empty => []
  | sequence parts => parts
  | r => [r]

/-- A part in front of others: texts become one. -/
def joined : Regular → List Regular → List Regular
  | literal codes, literal codes' :: rest => literal (codes ++ codes') :: rest
  | r, rest => r :: rest

def ofParts (parts : List Regular) : Regular :=
  match (parts.flatMap factors).foldr joined [] with
  | [] => empty
  | [r] => r
  | parts => sequence parts

def alternatives : Regular → List Regular
  | choice branches => branches
  | r => [r]

/-- The character of a text of one. -/
def character? : Regular → Option (Nat × Nat)
  | literal [code] => some (Ranges.single code)
  | _ => none

def members? : Regular → Option Ranges
  | set ranges _ => some ranges
  | _ => none

/-- A choice between branches that begin with nothing in common. Characters make a set, and so do
sets. -/
def ofDistinct (branches : List Regular) : Regular :=
  match branches with
  | [] => set [] false
  | [r] => r
  | _ =>
    match branches.mapM character? <|> (branches.mapM members?).map List.flatten with
    | some ranges => ofSet (Ranges.normal ranges) true
    | none => choice branches

/-- What all branches begin with, if each is a sequence. -/
def sharedFactors : List Regular → List Regular
  | [] => []
  | [sequence parts] => parts
  | sequence parts :: rest => sharedStart parts (sharedFactors rest)
  | _ => []

def ofBranches (branches : List Regular) : Regular :=
  let branches := branches.flatMap alternatives
  let shared := if branches.length < 2 then [] else sharedFactors branches
  if shared.isEmpty then ofDistinct branches
  else
    let rests := branches.map fun r => ofParts (r.factors.drop shared.length)
    ofParts (shared ++ [ofDistinct (rests.flatMap alternatives)])

end Regular

end DocChain.Pattern
