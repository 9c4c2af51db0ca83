import RowGuard.Value.Basic

/-!
# Attributes of values

What can be read by name of a value that is neither a mapping nor an object. A number has its parts,
which are numbers. Under every other name that its kind knows there is a method of the value or
something that belongs to the kind, and under all other names there is nothing.

A value without an identity is one with all values of its kind that are equal to it, and so are
their methods.
-/

set_option autoImplicit false

namespace RowGuard

namespace Value

/-! ## Names -/

/-- The names known to every kind. -/
def commonNames : List String :=
  ["__class__", "__delattr__", "__dir__", "__doc__", "__eq__", "__format__", "__ge__",
    "__getattribute__", "__getstate__", "__gt__", "__hash__", "__init__", "__init_subclass__",
    "__le__", "__lt__", "__ne__", "__new__", "__reduce__", "__reduce_ex__", "__repr__",
    "__setattr__", "__sizeof__", "__str__", "__subclasshook__"]

def numberNames : List String :=
  ["__abs__", "__add__", "__bool__", "__ceil__", "__divmod__", "__float__", "__floor__",
    "__floordiv__", "__int__", "__mod__", "__mul__", "__neg__", "__pos__", "__pow__", "__radd__",
    "__rdivmod__", "__rfloordiv__", "__rmod__", "__rmul__", "__round__", "__rpow__", "__rsub__",
    "__rtruediv__", "__sub__", "__truediv__", "__trunc__", "as_integer_ratio", "conjugate",
    "imag", "real"]

def integerNames : List String :=
  ["__and__", "__getnewargs__", "__index__", "__invert__", "__lshift__", "__or__", "__rand__",
    "__rlshift__", "__ror__", "__rrshift__", "__rshift__", "__rxor__", "__xor__", "bit_count",
    "bit_length", "denominator", "from_bytes", "numerator", "to_bytes"]

def decimalNames : List String :=
  ["__complex__", "__copy__", "__deepcopy__", "__module__", "adjusted", "as_tuple", "canonical",
    "compare", "compare_signal", "compare_total", "compare_total_mag", "copy_abs", "copy_negate",
    "copy_sign", "exp", "fma", "from_float", "is_canonical", "is_finite", "is_infinite", "is_nan",
    "is_normal", "is_qnan", "is_signed", "is_snan", "is_subnormal", "is_zero", "ln", "log10",
    "logb", "logical_and", "logical_invert", "logical_or", "logical_xor", "max", "max_mag", "min",
    "min_mag", "next_minus", "next_plus", "next_toward", "normalize", "number_class", "quantize",
    "radix", "remainder_near", "rotate", "same_quantum", "scaleb", "shift", "sqrt",
    "to_eng_string", "to_integral", "to_integral_exact", "to_integral_value"]

def floatNames : List String :=
  ["__getformat__", "__getnewargs__", "fromhex", "hex", "is_integer"]

/-- The names known to texts, lists and tuples. -/
def sequenceNames : List String :=
  ["__add__", "__contains__", "__getitem__", "__iter__", "__len__", "__mul__", "__rmul__",
    "count", "index"]

def textNames : List String :=
  ["__getnewargs__", "__mod__", "__rmod__", "capitalize", "casefold", "center", "encode",
    "endswith", "expandtabs", "find", "format", "format_map", "isalnum", "isalpha", "isascii",
    "isdecimal", "isdigit", "isidentifier", "islower", "isnumeric", "isprintable", "isspace",
    "istitle", "isupper", "join", "ljust", "lower", "lstrip", "maketrans", "partition",
    "removeprefix", "removesuffix", "replace", "rfind", "rindex", "rjust", "rpartition", "rsplit",
    "rstrip", "split", "splitlines", "startswith", "strip", "swapcase", "title", "translate",
    "upper", "zfill"]

def listNames : List String :=
  ["__class_getitem__", "__delitem__", "__iadd__", "__imul__", "__reversed__", "__setitem__",
    "append", "clear", "copy", "extend", "insert", "pop", "remove", "reverse", "sort"]

def tupleNames : List String :=
  ["__class_getitem__", "__getnewargs__"]

def methodNames : List String :=
  ["__call__", "__name__", "__qualname__", "__self__"]

/-- The names known to the kind of a value and not to every other one. -/
def kindNames : Value → List String
  | .bool _ => numberNames ++ integerNames
  | .int _ => numberNames ++ integerNames
  | .decimal _ => numberNames ++ decimalNames
  | .infinite _ => numberNames ++ decimalNames
  | .float _ => numberNames ++ floatNames
  | .undefined number => numberNames ++ if number.isDecimal then decimalNames else floatNames
  | .text _ => sequenceNames ++ textNames
  | .list _ => sequenceNames ++ listNames
  | .tuple _ => sequenceNames ++ tupleNames
  | .builtin .. => methodNames
  | _ => []

/-- The names of what belongs to a kind and not to one of its values. -/
def sharedNames : List String :=
  ["__class__", "__class_getitem__", "__doc__", "__getformat__", "__init_subclass__",
    "__module__", "__new__", "__subclasshook__", "from_bytes", "from_float", "fromhex",
    "maketrans"]

/-! ## Parts -/

def integerPart? (n : Int) : String → Option Value
  | "real" => some (.int n)
  | "numerator" => some (.int n)
  | "imag" => some (.int 0)
  | "denominator" => some (.int 1)
  | _ => none

/-- The parts of a number that has a real and an imaginary one. -/
def complexPart? (real imaginary : Value) : String → Option Value
  | "real" => some real
  | "imag" => some imaginary
  | _ => none

def decimalZero : Value :=
  .decimal ⟨false, 0, 0⟩

def floatZero : Value :=
  .float (.finite false 0 Binary.minExponent)

/-- What is read of a value under a name where that is no attribute. Lists have no hash, but they
know the name. -/
def part? (value : Value) (name : String) : Option Value :=
  match value with
  | .bool b => integerPart? (if b then 1 else 0) name
  | .int n => integerPart? n name
  | .decimal _ => complexPart? value decimalZero name
  | .infinite _ => complexPart? value decimalZero name
  | .float _ => complexPart? value floatZero name
  | .undefined number =>
    complexPart? value (if number.isDecimal then decimalZero else floatZero) name
  | .list _ => if name == "__hash__" then some .null else none
  | .builtin kind method owner =>
    match name with
    | "__name__" => some (.text method)
    | "__qualname__" => some (.text (kind ++ "." ++ method))
    | "__self__" => some owner
    | _ => none
  | _ => none

/-- What is read of a value under a name, null if there is nothing. -/
def attributeOf (value : Value) (name : String) : Value :=
  match value.part? name with
  | some part => part
  | none =>
    if commonNames.contains name || value.kindNames.contains name then
      .builtin value.kindName name (if sharedNames.contains name then .null else value)
    else .null

end Value

end RowGuard
