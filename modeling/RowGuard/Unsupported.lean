/-!
# Nodes and operators without a meaning

The trees of this library are closed, but they can be given nodes of another kind by their callers.
Such a node is kept as it is, and whoever has to give it a meaning refuses it by the name of its
kind.
-/

set_option autoImplicit false

namespace RowGuard

/-- A node that does not belong to the tree it stands in. -/
structure Foreign where
  kind : String
  /-- Its written form, by which it can be handed back. -/
  form : String
  readsRecord : Bool := false
  readsActor : Bool := false
deriving Repr, DecidableEq, Inhabited

/-- What has no meaning where it stands. -/
inductive Unsupported where
  | expression (kind : String)
  | operand (kind : String)
  | predicate (kind : String)
  | rowFilter (kind : String)
  | operator (symbol : String)
  /-- An operand that still has to be bound to an actor. -/
  | unbound (shown : String)
deriving Repr, DecidableEq

def Unsupported.message : Unsupported → String
  | .expression kind => "Cannot format node: " ++ kind
  | .operand kind => "Unsupported operand type: " ++ kind
  | .predicate kind => "Unsupported predicate type: " ++ kind
  | .rowFilter kind => "Unsupported filter type: " ++ kind
  | .operator symbol => "Unsupported comparison operator: " ++ symbol
  | .unbound shown => "Unbound operand " ++ shown ++ "; bind the filter to an actor first"

end RowGuard
