import DocChain.Pattern.Look

/-!
# Flags of patterns

Flags hold from where they are set to the end of their group.
-/

namespace DocChain.Pattern

structure Flags where
  ignoresCase : Bool := false
  multiLine : Bool := false
  dotMatchesAll : Bool := false
  swapsGreed : Bool := false
  crlf : Bool := false
  verbose : Bool := false
  unicode : Bool := true

namespace Flags

/-- Sets the flag of a letter; the hyphen between letters sets none. -/
def set (flags : Flags) (value : Bool) : Char → Flags
  | 'i' => { flags with ignoresCase := value }
  | 'm' => { flags with multiLine := value }
  | 's' => { flags with dotMatchesAll := value }
  | 'U' => { flags with swapsGreed := value }
  | 'R' => { flags with crlf := value }
  | 'x' => { flags with verbose := value }
  | 'u' => { flags with unicode := value }
  | _ => flags

/-- Each flag and the hyphen that takes flags away occurs once, and a flag follows the hyphen. -/
def lettersValid (letters : List Char) : Bool :=
  letters.all (fun c => "imsUuRx-".toList.contains c && letters.count c = 1)
    && letters.getLast? != some '-'

/-- The flags after some are set and those behind a hyphen taken away. -/
def update (flags : Flags) (letters : List Char) : Flags :=
  let added := (letters.takeWhile (· != '-')).foldl (fun flags c => flags.set true c) flags
  (letters.dropWhile (· != '-')).foldl (fun flags c => flags.set false c) added

def startLook (flags : Flags) : Look :=
  if flags.multiLine then .lineStart flags.crlf else .textStart

def endLook (flags : Flags) : Look :=
  if flags.multiLine then .lineEnd flags.crlf else .textEnd

end Flags

end DocChain.Pattern
