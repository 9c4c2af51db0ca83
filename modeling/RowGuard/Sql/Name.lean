import RowGuard.Text.LetterCase
import RowGuard.Text.Quoted

/-!
# Names in SQL texts

The name of a table or a column stands by itself if it is in lower case, is made of plain characters
and means nothing else. Every other name is put in double quotes.
-/

set_option autoImplicit false

namespace RowGuard

namespace Sql

/-- Words that mean something else. -/
def reservedWords : List String :=
  ["all", "analyse", "analyze", "and", "any", "array", "as", "asc", "asymmetric", "authorization",
    "between", "binary", "both", "case", "cast", "check", "collate", "column", "constraint",
    "create", "cross", "current_date", "current_role", "current_time", "current_timestamp",
    "current_user", "default", "deferrable", "desc", "distinct", "do", "else", "end", "except",
    "false", "for", "foreign", "freeze", "from", "full", "grant", "group", "having", "ilike", "in",
    "initially", "inner", "intersect", "into", "is", "isnull", "join", "leading", "left", "like",
    "limit", "localtime", "localtimestamp", "natural", "new", "not", "notnull", "null", "off",
    "offset", "old", "on", "only", "or", "order", "outer", "overlaps", "placing", "primary",
    "references", "right", "select", "session_user", "set", "similar", "some", "symmetric",
    "table", "then", "to", "trailing", "true", "union", "unique", "user", "using", "verbose",
    "when", "where"]

/-- Plain characters: digits, the underscore, the dollar sign, and what is one of the letters from
`a` to `z` when case does not matter. -/
def isPlainChar (c : Char) : Bool :=
  c.isDigit || c == '_' || c == '$' ||
    "abcdefghijklmnopqrstuvwxyz".toList.any fun letter => Text.likeIgnoringCase letter c

/-- Whether a name is made of plain characters; a line break at its end is overlooked. -/
def isPlain (name : List Char) : Bool :=
  let body := if name.getLast? == some '\n' then name.dropLast else name
  !body.isEmpty && body.all isPlainChar

/-- What a name does not begin with unless it is in quotes. -/
def isBadStart (c : Char) : Bool :=
  c.isDigit || c == '$'

def needsQuotes (name : String) : Bool :=
  reservedWords.contains (Text.lower name) || name.toList.head?.any isBadStart ||
    !isPlain name.toList || Text.lower name != name

def nameText (name : String) : String :=
  if needsQuotes name then
    String.ofList ('"' :: Text.doubleQuotes '"' name.toList ++ ['"'])
  else name

def columnText (table column : String) : String :=
  nameText table ++ "." ++ nameText column

end Sql

end RowGuard
