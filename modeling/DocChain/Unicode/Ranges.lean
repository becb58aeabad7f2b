/-!
# Ranges of code points

A property of characters is a list of closed ranges of code points. `Ranges.contains_iff` says that
a character has the property exactly when one of the ranges holds it. The operations on sets of
characters keep the ranges in order.
-/

namespace DocChain.Unicode

/-- Closed ranges of code points, each with its first and its last member. -/
abbrev Ranges := List (Nat × Nat)

def lastCode : Nat := 0x10FFFF

/-- The next code point, over the surrogates. -/
def successor (code : Nat) : Nat :=
  if code = 0xD7FF then 0xE000 else code + 1

/-- The code point before, over the surrogates. -/
def predecessor (code : Nat) : Nat :=
  if code = 0xE000 then 0xD7FF else code - 1

namespace Ranges

def contains (ranges : Ranges) (code : Nat) : Bool :=
  ranges.any fun r => r.1 ≤ code && code ≤ r.2

theorem contains_iff (ranges : Ranges) (code : Nat) :
    ranges.contains code = true ↔ ∃ r ∈ ranges, r.1 ≤ code ∧ code ≤ r.2 := by
  simp [contains]

def single (code : Nat) : Nat × Nat := (code, code)

/-! ### Union -/

/-- A range in front of ranges that do not begin before it: those that touch it grow into it. -/
def absorb (r : Nat × Nat) : Ranges → Ranges
  | [] => [r]
  | s :: rest =>
    if s.1 ≤ r.2 + 1 then absorb (r.1, max r.2 s.2) rest else r :: absorb s rest

/-- The ranges in order, with those made one that overlap or touch. -/
def normal (ranges : Ranges) : Ranges :=
  match ranges.mergeSort fun r s => r.1 ≤ s.1 with
  | [] => []
  | r :: rest => absorb r rest

def union (left right : Ranges) : Ranges :=
  normal (left ++ right)

/-! ### Complement -/

/-- The gaps behind a range. Between ranges that meet at the surrogates no character is left, and
the gap runs from the one neighbour to the other. -/
def gapsBehind (r : Nat × Nat) : Ranges → Ranges
  | [] => if r.2 < lastCode then [(successor r.2, lastCode)] else []
  | s :: rest =>
    let first := successor r.2
    let last := predecessor s.1
    (min first last, max first last) :: gapsBehind s rest

/-- The gaps between the ranges, before the first and behind the last. -/
def complement : Ranges → Ranges
  | [] => [(0, lastCode)]
  | r :: rest => (if 0 < r.1 then [(0, predecessor r.1)] else []) ++ gapsBehind r rest

/-! ### Intersection and differences -/

def intersection : Ranges → Ranges → Ranges
  | [], _ => []
  | _, [] => []
  | r :: left, s :: right =>
    let rest :=
      if r.2 < s.2 then intersection left (s :: right) else intersection (r :: left) right
    if max r.1 s.1 ≤ min r.2 s.2 then (max r.1 s.1, min r.2 s.2) :: rest else rest
termination_by left right => left.length + right.length

def difference : Ranges → Ranges → Ranges
  | [], _ => []
  | left, [] => left
  | r :: left, s :: right =>
    if s.2 < r.1 then difference (r :: left) right
    else if r.2 < s.1 then r :: difference left (s :: right)
    else
      (if r.1 < s.1 then [(r.1, predecessor s.1)] else []) ++
        if s.2 < r.2 then difference ((successor s.2, r.2) :: left) right
        else difference left (s :: right)
termination_by left right => left.length + right.length

def symmetricDifference (left right : Ranges) : Ranges :=
  difference (union left right) (intersection left right)

end Ranges

end DocChain.Unicode
