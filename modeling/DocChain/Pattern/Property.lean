import DocChain.Pattern.Property.Age
import DocChain.Pattern.Property.Binary
import DocChain.Pattern.Property.Category
import DocChain.Pattern.Property.Script
import DocChain.Pattern.Property.Segmentation

/-!
# Character properties by name

The names that `\p` takes in a pattern and the characters they stand for: general categories,
scripts, properties of characters that hold or do not hold, and some properties with a value.
Spaces, underscores, hyphens, case and a leading "is" do not count.
-/

namespace DocChain.Pattern

open DocChain.Unicode

/-- A name without what does not count in it. -/
def normalName (name : List Char) : String :=
  let lower := name.map Char.toLower
  let kept := (if ['i', 's'].isPrefixOf lower then lower.drop 2 else lower).filter fun c =>
    c.toNat < 128 && c != ' ' && c != '_' && c != '-'
  if kept = ['c'] && ['i', 's'].isPrefixOf lower then "isc" else String.ofList kept

/-- The characters of a general category, or of one of the three names that are used like one. -/
def category? (name : String) : Option Ranges :=
  match name with
  | "any" => some [(0, lastCode)]
  | "ascii" => some [(0, 0x7F)]
  | "assigned" => (generalCategories.find? "cn").map Ranges.complement
  | _ =>
    match categoryGroups.find? fun group => isListed group.1 name with
    | some group => some (Ranges.normal (group.2.filterMap generalCategories.find?).flatten)
    | none => generalCategories.find? name

/-- The characters that a script uses. -/
def scriptExtension? (name : String) : Option Ranges :=
  scriptExtensions.find? name <|> scripts.find? name

/-- The characters of a version: those that came with it or before it. -/
def age? (name : String) : Option Ranges :=
  let earlier := additions.takeWhile fun entry => !isListed entry.names name
  (additions.find? name).map fun added =>
    Ranges.normal (added ++ (earlier.map fun entry => Ranges.ofText entry.ranges).flatten)

def class? (name : List Char) : Option Ranges :=
  let name := normalName name
  binaryProperties.find? name <|> category? name <|> scripts.find? name

def valueClass? (property value : List Char) : Option Ranges :=
  let value := normalName value
  match normalName property with
  | "gc" | "generalcategory" => category? value
  | "sc" | "script" => scripts.find? value
  | "scx" | "scriptextensions" => scriptExtension? value
  | "age" => age? value
  | "gcb" | "graphemeclusterbreak" => graphemeBreaks.find? value
  | "sb" | "sentencebreak" => sentenceBreaks.find? value
  | "wb" | "wordbreak" => wordBreaks.find? value
  | _ => none

/-- Splits a text at the first place where `mark` stands. -/
def splitAt? (mark : List Char) : List Char → Option (List Char × List Char)
  | [] => none
  | c :: rest =>
    if mark.isPrefixOf (c :: rest) then some ([], (c :: rest).drop mark.length)
    else (splitAt? mark rest).map fun (before, behind) => (c :: before, behind)

/-- The characters that the text between the braces of `\p` stands for, and whether those that do
not have the property are meant: a name, or a property, one of `!=`, `:` and `=`, and a value. -/
def property? (text : List Char) : Option (Ranges × Bool) :=
  match splitAt? ['!', '='] text with
  | some (property, value) => (valueClass? property value).map (·, true)
  | none =>
    match splitAt? [':'] text <|> splitAt? ['='] text with
    | some (property, value) => (valueClass? property value).map (·, false)
    | none => (class? text).map (·, false)

/-! ### Classes with a letter of their own -/

def digitRanges : Ranges :=
  (generalCategories.find? "nd").getD []

def spaceRanges : Ranges :=
  (binaryProperties.find? "space").getD []

/-- The characters of words: letters, marks, digits, connecting punctuation and joiners. -/
def wordRanges : Ranges :=
  ([binaryProperties.find? "alpha", category? "m", category? "nd", category? "pc",
    binaryProperties.find? "joinc"].filterMap id).foldl Ranges.union []

end DocChain.Pattern
