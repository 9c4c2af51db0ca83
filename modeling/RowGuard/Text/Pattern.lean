import RowGuard.Text.LetterCase

/-!
# Wildcard patterns

`%` stands for any run of characters and `_` for any one character. A pattern is read in two steps.
First each wildcard is replaced by a tag, a word between two NUL characters; then the tags are
expanded from left to right, those of `%` before those of `_`. A text that happens to spell a tag,
or that overlaps one, is expanded like it.
-/

set_option autoImplicit false

namespace RowGuard.Text

namespace Pattern

inductive Item where
  /-- Exactly this character. -/
  | char (c : Char)
  /-- Any one character. -/
  | one
  /-- Any run of characters, the empty one included. -/
  | run
deriving Repr, DecidableEq

/-- The tag that stands for `%`. -/
def runTag : List Char := ['\x00', 'P', 'C', 'T', '\x00']

/-- The tag that stands for `_`. -/
def oneTag : List Char := ['\x00', 'U', 'S', 'C', '\x00']

def tagged (pattern : List Char) : List Char :=
  (pattern.flatMap fun c => if c == '%' then runTag else [c]).flatMap
    fun c => if c == '_' then oneTag else [c]

/-- Replaces the occurrences of a tag, leftmost first, by an item. While `skip` is positive the
characters are those of the tag just replaced. -/
def expandFrom (tag : List Char) (item : Item) (skip : Nat) : List Item → List Item
  | [] => []
  | head :: rest =>
    match skip with
    | skip + 1 => expandFrom tag item skip rest
    | 0 =>
      if (tag.map Item.char).isPrefixOf (head :: rest) then
        item :: expandFrom tag item (tag.length - 1) rest
      else head :: expandFrom tag item 0 rest

def items (pattern : String) : List Item :=
  expandFrom oneTag .one 0 (expandFrom runTag .run 0 ((tagged pattern.toList).map .char))

/-- What is left of a text after each of its beginnings, from all of it to nothing. -/
def suffixes : List Char → List (List Char)
  | [] => [[]]
  | c :: cs => (c :: cs) :: suffixes cs

/-- Whether the items match the whole text, single characters being compared by `matchChar`. -/
def fits (matchChar : Char → Char → Bool) : List Item → List Char → Bool
  | [], cs => cs.isEmpty
  | .char wanted :: rest, cs =>
    match cs with
    | [] => false
    | c :: cs => matchChar wanted c && fits matchChar rest cs
  | .one :: rest, cs =>
    match cs with
    | [] => false
    | _ :: cs => fits matchChar rest cs
  | .run :: rest, cs => (suffixes cs).any (fits matchChar rest)

end Pattern

/-- Whether a text matches a pattern as a whole. -/
def matchesPattern (ignoreCase : Bool) (pattern text : String) : Bool :=
  let matchChar := if ignoreCase then likeIgnoringCase else fun wanted found => wanted == found
  Pattern.fits matchChar (Pattern.items pattern) text.toList

end RowGuard.Text
