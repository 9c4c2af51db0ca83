import RowGuard.Text.Quoted

/-!
# Fields of the acting principal

A field path names a field of the principal, possibly through relations, and says how it became
known. Paths without a segment, or with an empty one, are not built.
-/

set_option autoImplicit false

namespace RowGuard

/-- How a field path became known, from the most to the least trustworthy. -/
inductive Confidence where
  | introspected
  | builtin
  | inferred
  | fallback
deriving Repr, DecidableEq

namespace Confidence

def name : Confidence → String
  | .introspected => "introspected"
  | .builtin => "builtin"
  | .inferred => "inferred"
  | .fallback => "fallback"

def ofName? : String → Option Confidence
  | "introspected" => some .introspected
  | "builtin" => some .builtin
  | "inferred" => some .inferred
  | "fallback" => some .fallback
  | _ => none

/-- The names in alphabetical order. -/
def names : List String :=
  ["builtin", "fallback", "inferred", "introspected"]

@[simp]
theorem ofName?_name (confidence : Confidence) : ofName? confidence.name = some confidence := by
  cases confidence <;> rfl

end Confidence

structure ActorPath where
  parts : List String
  confidence : Confidence
  source : String
  /-- There is a segment, and none is empty. -/
  filled : parts ≠ [] ∧ "" ∉ parts

namespace ActorPath

inductive Fault where
  | emptySegment (parts : List String)
  | badConfidence (name : String)
deriving Repr, DecidableEq

def Fault.message : Fault → String
  | .emptySegment parts => "FieldPath needs non-empty segments, got " ++ Text.quotedTuple parts
  | .badConfidence name =>
    "confidence must be one of \x7b" ++ Text.joinWith ", " (Confidence.names.map Text.quoted) ++
      "\x7d, got " ++ Text.quoted name

def ofParts (parts : List String) (confidence : Confidence) (source : String) :
    Except Fault ActorPath :=
  if filled : parts ≠ [] ∧ "" ∉ parts then .ok ⟨parts, confidence, source, filled⟩
  else .error (.emptySegment parts)

/-- A path of segments with a confidence given by its name. Faulty segments are reported first. -/
def ofNames (parts : List String) (confidence source : String) : Except Fault ActorPath :=
  match Confidence.ofName? confidence with
  | some confidence => ofParts parts confidence source
  | none => do
    let _ ← ofParts parts .fallback source
    throw (.badConfidence confidence)

def ofDotted (dotted : String) (confidence : Confidence) (source : String) :
    Except Fault ActorPath :=
  ofParts (Text.dottedParts dotted) confidence source

def text (path : ActorPath) : String :=
  Text.joinWith "." path.parts

def leaf (path : ActorPath) : String :=
  path.parts.getLast path.filled.1

/-- Whether the path is only a guess. -/
def isGuess (path : ActorPath) : Bool :=
  path.confidence == .fallback

end ActorPath

end RowGuard
