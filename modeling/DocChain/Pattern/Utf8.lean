import DocChain.Number.Power
import DocChain.Unicode.Ranges

/-!
# Characters as bytes

The bytes of a character are a head and continuation bytes of six bits each. A range of characters
becomes sequences of byte ranges, each of which holds the bytes of some of the characters.
-/

namespace DocChain.Pattern

open DocChain.Unicode

abbrev ByteSequence := List (Nat × Nat)

/-- The number of continuation bytes of a character. -/
def continuations (code : Nat) : Nat :=
  if code < 0x80 then 0 else if code < 0x800 then 1 else if code < 0x10000 then 2 else 3

/-- The mark in the head of a character with this number of continuation bytes. -/
def headMark : Nat → Nat
  | 0 => 0
  | 1 => 0xC0
  | 2 => 0xE0
  | _ => 0xF0

/-- The head, from its mark on, and continuation bytes of a value. -/
def bytesOf (mark : Nat) : Nat → Nat → List Nat
  | 0, value => [mark + value]
  | n + 1, value => (mark + value / 64 ^ (n + 1)) :: bytesOf 0x80 n (value % 64 ^ (n + 1))

def utf8 (code : Nat) : List Nat :=
  bytesOf (headMark (continuations code)) (continuations code) code

/-- The sequences for the values from `first` to `last`: those with the first head that are not all
of its values, the heads with all their values, and those with the last head. -/
def sequencesOf (mark : Nat) : Nat → (first last : Nat) → List ByteSequence
  | 0, first, last => [[(mark + first, mark + last)]]
  | n + 1, first, last =>
    let block := 64 ^ (n + 1)
    let behind (head : Nat) (rest : List ByteSequence) : List ByteSequence :=
      rest.map ((mark + head, mark + head) :: ·)
    let low := first / block
    let high := last / block
    if low = high then behind low (sequencesOf 0x80 n (first % block) (last % block))
    else
      let wholeLow := first % block = 0
      let wholeHigh := last % block = block - 1
      let fullFirst := if wholeLow then low else low + 1
      let fullLast := if wholeHigh then high + 1 else high
      (if wholeLow then [] else behind low (sequencesOf 0x80 n (first % block) (block - 1))) ++
      (if fullFirst < fullLast then
        [(mark + fullFirst, mark + (fullLast - 1)) :: List.replicate (n + 1) (0x80, 0xBF)]
      else []) ++
      (if wholeHigh then [] else behind high (sequencesOf 0x80 n 0 (last % block)))

/-- The characters with the same number of bytes, without the surrogates. -/
def utf8Blocks : Ranges :=
  [(0, 0x7F), (0x80, 0x7FF), (0x800, 0xD7FF), (0xE000, 0xFFFF), (0x10000, lastCode)]

def utf8Sequences (ranges : Ranges) : List ByteSequence :=
  (Ranges.intersection ranges utf8Blocks).flatMap fun (first, last) =>
    sequencesOf (headMark (continuations first)) (continuations first) first last

end DocChain.Pattern
