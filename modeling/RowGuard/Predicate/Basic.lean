import RowGuard.Comparison

/-!
# Predicates

The condition under which an actor may act on a record, evaluated on one record at a time. Operands
say where a value comes from: a field of the record, a field of the actor, or a constant.
-/

set_option autoImplicit false

namespace RowGuard

/-- Where a value comes from. -/
inductive Operand where
  /-- A field of the record under check. -/
  | record (path : List String)
  /-- A field of the acting principal, and the context provider it was resolved from. -/
  | actor (path : List String) (source : String)
  | value (value : Value)
  | values (values : List Value)
  | foreign (node : Foreign)
deriving Repr, Inhabited

namespace Operand

def isRecord : Operand → Bool
  | .record _ => true
  | _ => false

def isActor : Operand → Bool
  | .actor .. => true
  | _ => false

def readsRecord : Operand → Bool
  | .record _ => true
  | .foreign node => node.readsRecord
  | _ => false

def readsActor : Operand → Bool
  | .actor .. => true
  | .foreign node => node.readsActor
  | _ => false

end Operand

/-- A construct without a meaning of its own, and the answer it gives instead. -/
structure Unresolved where
  /-- What it is, in a word. -/
  kind : String
  text : String
  /-- A truth value, unless the construct was put together by hand. -/
  default : Value
  related : Option String := none
deriving Repr, Inhabited

namespace Unresolved

/-- The negation of a construct: its default stays as it is, for it stands for a condition that is
not known. -/
def negate (u : Unresolved) : Unresolved :=
  { u with text := "NOT " ++ u.text }

end Unresolved

/-- A condition on a record and an actor. -/
inductive Predicate where
  /-- A constant: a truth value, unless the predicate was put together by hand. -/
  | const (value : Value)
  | all (operands : List Predicate)
  | any (operands : List Predicate)
  | not (operand : Predicate)
  | compare (comparator : Comparator) (left right : Operand)
  | member (operand values : Operand) (negated : Bool)
  | isNull (operand : Operand) (negated : Bool)
  /-- Some row of a to-many relation satisfies the condition, which is evaluated with that row as
  the record. A junction is reached through the fields of its key, the record's own first. -/
  | anyRelated (relation : String) (condition : Predicate) (joinFields : List String)
  /-- The branch of the first value equal to the subject. -/
  | select (subject : Operand) (branches : List (Operand × Predicate)) (otherwise : Predicate)
  /-- The branch of the first condition that holds. -/
  | firstOf (branches : List (Predicate × Predicate)) (otherwise : Predicate)
  /-- A condition on the actor alone. -/
  | role (condition : Predicate)
  | unresolved (construct : Unresolved)
  | foreign (node : Foreign)
deriving Repr, Inhabited

namespace Predicate

abbrev true : Predicate := .const (.bool Bool.true)

abbrev false : Predicate := .const (.bool Bool.false)

/-! ## Folding constructors -/

/-- The operands of a conjunction of `items`, inner conjunctions opened up and true ones left out;
`none` if one of them is false. -/
def conjuncts : List Predicate → Option (List Predicate)
  | [] => some []
  | .const value :: items =>
    if value.same (.bool Bool.false) then none
    else if value.same (.bool Bool.true) then conjuncts items
    else (conjuncts items).map (.const value :: ·)
  | .all operands :: items => (conjuncts items).map (operands ++ ·)
  | item :: items => (conjuncts items).map (item :: ·)

def allOf (items : List Predicate) : Predicate :=
  match conjuncts items with
  | none => false
  | some [] => true
  | some [item] => item
  | some operands => .all operands

/-- The operands of a disjunction of `items`, inner disjunctions opened up and false ones left out;
`none` if one of them is true. -/
def alternatives : List Predicate → Option (List Predicate)
  | [] => some []
  | .const value :: items =>
    if value.same (.bool Bool.true) then none
    else if value.same (.bool Bool.false) then alternatives items
    else (alternatives items).map (.const value :: ·)
  | .any operands :: items => (alternatives items).map (operands ++ ·)
  | item :: items => (alternatives items).map (item :: ·)

def anyOf (items : List Predicate) : Predicate :=
  match alternatives items with
  | none => true
  | some [] => false
  | some [item] => item
  | some operands => .any operands

/-- A negation, folded. -/
def negate : Predicate → Predicate
  | .const value => .const (.bool !value.truthy)
  | .unresolved construct => .unresolved construct.negate
  | .not operand => operand
  | item => .not item

/-- The branches of a disjunction; any other predicate is its only branch. -/
def disjuncts : Predicate → List Predicate
  | .any operands => operands
  | p => [p]

/-- A comparison with the record's side on the left, where the comparator can be turned around. -/
def oriented (comparator : Comparator) (left right : Operand) : Predicate :=
  if left.isRecord || !right.isRecord then .compare comparator left right
  else match comparator.flipped? with
    | some flipped => .compare flipped right left
    | none => .compare comparator left right

/-! ## Dependencies -/

mutual

/-- Whether a predicate reads the record. A construct without a meaning of its own counts as reading
it, and so does a condition on related rows. -/
def readsRecord : Predicate → Bool
  | .const .. => Bool.false
  | .all operands => anyReadsRecord operands
  | .any operands => anyReadsRecord operands
  | .not operand => readsRecord operand
  | .compare _ left right => left.readsRecord || right.readsRecord
  | .member operand values _ => operand.readsRecord || values.readsRecord
  | .isNull operand _ => operand.readsRecord
  | .anyRelated .. => Bool.true
  | .select subject branches otherwise =>
    subject.readsRecord || selectReadsRecord branches || readsRecord otherwise
  | .firstOf branches otherwise => firstReadsRecord branches || readsRecord otherwise
  | .role condition => readsRecord condition
  | .unresolved _ => Bool.true
  | .foreign node => node.readsRecord
termination_by structural p => p

def anyReadsRecord : List Predicate → Bool
  | [] => Bool.false
  | p :: ps => readsRecord p || anyReadsRecord ps
termination_by structural ps => ps

def selectReadsRecord : List (Operand × Predicate) → Bool
  | [] => Bool.false
  | (key, outcome) :: rest => key.readsRecord || readsRecord outcome || selectReadsRecord rest
termination_by structural branches => branches

def firstReadsRecord : List (Predicate × Predicate) → Bool
  | [] => Bool.false
  | (key, outcome) :: rest => readsRecord key || readsRecord outcome || firstReadsRecord rest
termination_by structural branches => branches

end

mutual

def readsActor : Predicate → Bool
  | .const .. => Bool.false
  | .all operands => anyReadsActor operands
  | .any operands => anyReadsActor operands
  | .not operand => readsActor operand
  | .compare _ left right => left.readsActor || right.readsActor
  | .member operand values _ => operand.readsActor || values.readsActor
  | .isNull operand _ => operand.readsActor
  | .anyRelated _ condition _ => readsActor condition
  | .select subject branches otherwise =>
    subject.readsActor || selectReadsActor branches || readsActor otherwise
  | .firstOf branches otherwise => firstReadsActor branches || readsActor otherwise
  | .role condition => readsActor condition
  | .unresolved _ => Bool.false
  | .foreign node => node.readsActor
termination_by structural p => p

def anyReadsActor : List Predicate → Bool
  | [] => Bool.false
  | p :: ps => readsActor p || anyReadsActor ps
termination_by structural ps => ps

def selectReadsActor : List (Operand × Predicate) → Bool
  | [] => Bool.false
  | (key, outcome) :: rest => key.readsActor || readsActor outcome || selectReadsActor rest
termination_by structural branches => branches

def firstReadsActor : List (Predicate × Predicate) → Bool
  | [] => Bool.false
  | (key, outcome) :: rest => readsActor key || readsActor outcome || firstReadsActor rest
termination_by structural branches => branches

end

/-- Whether a predicate depends on the actor and never on the record. -/
def isRoleOnly (p : Predicate) : Bool :=
  p.readsActor && !p.readsRecord

/-- The condition inside the marks of a role condition. -/
def stripRole : Predicate → Predicate
  | .role condition => stripRole condition
  | p => p

end Predicate

end RowGuard
