import RowGuard.Number.Binary
import RowGuard.Number.Undefined

/-!
# Values

The values that records and actors hold and that policies compare: null, truth values, numbers of
three kinds with the infinite and the undefined ones among them, texts, lists and tuples, mappings
and objects, and what can be read of them. Only objects and undefined numbers have an identity;
every other value is what it is made of.
-/

set_option autoImplicit false

namespace RowGuard

/-- A value of a record or an actor.

A mapping keeps its entries in the order of their keys. An object is told from every other object by
its `id`. It reads the attributes it has. An instance of a model also has `unloaded`, the
relationships whose rows have not been fetched. -/
inductive Value where
  | null
  | bool (b : Bool)
  | int (n : Int)
  | decimal (d : Decimal)
  /-- An infinite decimal. -/
  | infinite (negative : Bool)
  | float (f : Binary)
  | undefined (number : Undefined)
  | text (s : String)
  | list (items : List Value)
  | tuple (items : List Value)
  | mapping (entries : List (String × Value))
  | object (id : Nat) (kind : String) (attributes : List (String × Value))
      (unloaded : Option (List String))
  /-- What the kind of a value has under a name for its values, such as a method. It belongs to one
  of them, or to the kind and then to null. -/
  | builtin (kind name : String) (owner : Value)
deriving Repr, Inhabited

namespace Value

def isNull : Value → Bool
  | .null => true
  | _ => false

def isInstance : Value → Bool
  | .object _ _ _ (some _) => true
  | _ => false

/-- Whether the value can be a key of a table: a list, a mapping and a signaling number cannot. -/
def isKeyable : Value → Bool
  | .list _ => false
  | .mapping _ => false
  | .undefined number => !number.isSignaling
  | _ => true

/-- The value stored under a name, null if there is none. -/
def lookup (name : String) (entries : List (String × Value)) : Value :=
  ((entries.find? fun entry => entry.1 == name).map (·.2)).getD .null

/-- What a value lets one iterate over. Null has no items; a text, a number or an object is its own
only item; a mapping yields its keys. -/
def items? : Value → Option (List Value)
  | .null => none
  | .list items => some items
  | .tuple items => some items
  | .mapping entries => some (entries.map fun entry => .text entry.1)
  | value => some [value]

/-- Whether a value counts as true where a truth value is expected: null, zero and everything empty
do not. -/
def truthy : Value → Bool
  | .null => false
  | .bool b => b
  | .int n => n != 0
  | .decimal d => d.coefficient != 0
  | .infinite _ => true
  | .float (.finite _ mantissa _) => mantissa != 0
  | .float (.infinite _) => true
  | .undefined _ => true
  | .text s => s != ""
  | .list items => !items.isEmpty
  | .tuple items => !items.isEmpty
  | .mapping entries => !entries.isEmpty
  | .object .. => true
  | .builtin .. => true

/-- The name of a value's kind; an object's is that of its class. -/
def kindName : Value → String
  | .null => "NoneType"
  | .bool _ => "bool"
  | .int _ => "int"
  | .decimal _ => "Decimal"
  | .infinite _ => "Decimal"
  | .float _ => "float"
  | .undefined number => if number.isDecimal then "Decimal" else "float"
  | .text _ => "str"
  | .list _ => "list"
  | .tuple _ => "tuple"
  | .mapping _ => "dict"
  | .object _ kind _ _ => kind
  | .builtin .. => "builtin_function_or_method"

end Value

end RowGuard
