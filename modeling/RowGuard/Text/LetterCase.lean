import RowGuard.Text.CaseRanges

/-!
# Letter case

Upper and lower case of characters and texts, by the full case maps: one character may become
several, and a capital sigma at the end of a word becomes a final sigma. Names are compared in lower
case and keywords in upper case. `likeIgnoringCase` is the weaker, character-by-character comparison
that case-insensitive patterns use.
-/

set_option autoImplicit false

namespace RowGuard.Text

/-! ## Characters -/

def spelled? (table : List (Nat × List Nat)) (code : Nat) : Option (List Char) :=
  (table.find? fun entry => entry.1 == code).map fun entry => entry.2.map Char.ofNat

def upperChar (c : Char) : List Char :=
  if c.toNat < 0x80 then [c.toUpper]
  else match spelled? upperSpelled c.toNat with
    | some cs => cs
    | none => [((CaseRun.find? upperRuns c.toNat).map Char.ofNat).getD c]

/-- The lower case of a character that stands alone. -/
def lowerChar (c : Char) : List Char :=
  if c.toNat < 0x80 then [c.toLower]
  else match spelled? lowerSpelled c.toNat with
    | some cs => cs
    | none => [((CaseRun.find? lowerRuns c.toNat).map Char.ofNat).getD c]

/-! ## Texts -/

def upperChars (cs : List Char) : List Char :=
  cs.flatMap upperChar

/-- Whether the first character that is not passed over has case. -/
def facesCased (cs : List Char) : Bool :=
  match cs.dropWhile fun c => passedRanges.has c.toNat with
  | [] => false
  | c :: _ => casedRanges.has c.toNat

/-- A sigma ends a word when a cased letter stands before it and none after it. -/
def endsWord (reversedBefore after : List Char) : Bool :=
  facesCased reversedBefore && !facesCased after

/-- The lower case of a text, given what stands before it in reverse. -/
def lowerAfter (reversedBefore : List Char) : List Char → List Char
  | [] => []
  | c :: rest =>
    let image :=
      if c == 'Σ' then [if endsWord reversedBefore rest then 'ς' else 'σ'] else lowerChar c
    image ++ lowerAfter (c :: reversedBefore) rest

def lowerChars (cs : List Char) : List Char :=
  lowerAfter [] cs

def upper (s : String) : String :=
  String.ofList (upperChars s.toList)

def lower (s : String) : String :=
  String.ofList (lowerChars s.toList)

/-! ## One character against another -/

/-- The first character of a character's lower case. -/
def plainLower (c : Char) : Char :=
  (lowerChar c).headD c

/-- The first character of a character's upper case. -/
def plainUpper (c : Char) : Char :=
  (upperChar c).headD c

/-- Whether a character of a text matches a character of a pattern when case does not matter. A
pattern character without case matches itself alone; any other matches what has its lower case, or a
lower case of its kin. -/
def likeIgnoringCase (wanted found : Char) : Bool :=
  if plainLower wanted == wanted && plainUpper wanted == wanted then wanted == found
  else
    let low := plainLower wanted
    let kin := ((kindredLetters.find? fun entry => entry.1 == low.toNat).map (·.2)).getD []
    plainLower found == low || kin.contains (plainLower found).toNat

end RowGuard.Text
