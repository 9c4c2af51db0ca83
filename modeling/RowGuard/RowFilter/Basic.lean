import RowGuard.Predicate.Basic

/-!
# Row filters

The part of a policy that narrows down rows. A filter depends on the actor only through operands and
through conditional filters, both of which are resolved once the actor is known.
-/

set_option autoImplicit false

namespace RowGuard

inductive RowFilter where
  | pass
  | block
  | all (operands : List RowFilter)
  | any (operands : List RowFilter)
  | not (operand : RowFilter)
  | equals (field : String) (value : Operand)
  | compare (field : String) (comparator : Comparator) (value : Operand)
  | member (field : String) (values : Operand)
  | isNull (field : String)
  | like (field : String) (pattern : Operand) (ignoreCase : Bool)
  /-- Some row of a to-many relation passes. -/
  | someRelated (relation : String) (condition : RowFilter) (joinFields : List String)
  /-- The row of a to-one relation is there and passes. -/
  | related (relation : String) (condition : RowFilter)
  /-- One filter for actors who satisfy a role condition, another for the others. -/
  | given (role : Predicate) (passed failed : RowFilter)
  | unresolved (construct : Unresolved)
  /-- A condition on the actor alone: not itself a filter, the construct around it decides what it
  becomes. -/
  | roleOnly (condition : Predicate)
  | foreign (node : Foreign)
deriving Repr, Inhabited

namespace RowFilter

/-! ## Folding constructors -/

/-- The operands of a conjunction of `items`, inner conjunctions opened up and filters that pass
every row left out; `none` if one of them blocks every row. -/
def conjuncts : List RowFilter → Option (List RowFilter)
  | [] => some []
  | .block :: _ => none
  | .pass :: items => conjuncts items
  | .all operands :: items => (conjuncts items).map (operands ++ ·)
  | item :: items => (conjuncts items).map (item :: ·)

def allOf (items : List RowFilter) : RowFilter :=
  match conjuncts items with
  | none => .block
  | some [] => .pass
  | some [item] => item
  | some operands => .all operands

/-- The operands of a disjunction of `items`, inner disjunctions opened up and filters that block
every row left out; `none` if one of them passes every row. -/
def alternatives : List RowFilter → Option (List RowFilter)
  | [] => some []
  | .pass :: _ => none
  | .block :: items => alternatives items
  | .any operands :: items => (alternatives items).map (operands ++ ·)
  | item :: items => (alternatives items).map (item :: ·)

def anyOf (items : List RowFilter) : RowFilter :=
  match alternatives items with
  | none => .pass
  | some [] => .block
  | some [item] => item
  | some operands => .any operands

def negate : RowFilter → RowFilter
  | .pass => .block
  | .block => .pass
  | .unresolved construct => .unresolved construct.negate
  | .not operand => operand
  | item => .not item

/-! ## Dependencies -/

mutual

/-- Whether binding a filter to an actor could change it. -/
def dependsOnActor : RowFilter → Bool
  | .given .. => true
  | .roleOnly _ => true
  | .all operands => anyDependsOnActor operands
  | .any operands => anyDependsOnActor operands
  | .not operand => dependsOnActor operand
  | .equals _ value => value.isActor
  | .compare _ _ value => value.isActor
  | .member _ values => values.isActor
  | .like _ pattern _ => pattern.isActor
  | .someRelated _ condition _ => dependsOnActor condition
  | .related _ condition => dependsOnActor condition
  | _ => false
termination_by structural f => f

def anyDependsOnActor : List RowFilter → Bool
  | [] => false
  | f :: fs => dependsOnActor f || anyDependsOnActor fs
termination_by structural fs => fs

end

end RowFilter

end RowGuard
