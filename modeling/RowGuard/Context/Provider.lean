import RowGuard.Context.ProviderMap

/-!
# Provider definitions

What a context provider stands for can often be read off its source text: a lookup in a table, or
the one session setting it reads. If the text says nothing, its name may.
-/

set_option autoImplicit false

namespace RowGuard

/-- A context provider as it is defined in a database. -/
structure Provider where
  /-- Its name, possibly with a schema in front. -/
  name : String
  body : String
deriving Repr, DecidableEq

namespace Provider

/-! ## Reading source texts -/

/-- What follows a keyword, in whatever case it is written. -/
def afterKeyword? : List Char → List Char → Option (List Char)
  | [], text => some text
  | _ :: _, [] => none
  | wanted :: rest, found :: text =>
    if Text.likeIgnoringCase wanted found then afterKeyword? rest text else none

def afterBlanks? : List Char → Option (List Char)
  | [] => none
  | c :: text => if Text.isBlank c then some (text.dropWhile Text.isBlank) else none

def word? (text : List Char) : Option (String × List Char) :=
  match text.takeWhile Text.isWordChar with
  | [] => none
  | word => some (String.ofList word, text.dropWhile Text.isWordChar)

/-- A column and the table it is looked up in. -/
structure Lookup where
  column : String
  table : String
deriving Repr, DecidableEq

/-- Skips the variable that a lookup is stored in. -/
def afterTarget? (text : List Char) : Option (List Char) :=
  match afterKeyword? "INTO".toList text with
  | none => some text
  | some text => do
    let text ← afterBlanks? text
    let (_, text) ← word? text
    afterBlanks? text

/-- The table at the front of a text, possibly quoted or with a schema in front. -/
def table? (text : List Char) : Option String := do
  let text := match text with
    | '"' :: text => text
    | _ => text
  let (first, text) ← word? text
  match text with
  | '.' :: text => return ((word? text).map (·.1)).getD first
  | _ => return first

def lookupAt? (text : List Char) : Option Lookup := do
  let text ← afterKeyword? "SELECT".toList text
  let text ← afterBlanks? text
  let (first, text) ← word? text
  let (column, text) ← match text with
    | '.' :: text => word? text
    | _ => some (first, text)
  let text ← afterBlanks? text
  let text ← afterTarget? text
  let text ← afterKeyword? "FROM".toList text
  let text ← afterBlanks? text
  return ⟨column, ← table? text⟩

def lookup? : List Char → Option Lookup
  | [] => none
  | c :: text => lookupAt? (c :: text) <|> lookup? text

/-- The session setting read at the front of a text, and what follows. -/
def settingAt? (text : List Char) : Option (String × List Char) := do
  let text ← afterKeyword? "current_setting".toList text
  match text.dropWhile Text.isBlank with
  | '(' :: text =>
    match text.dropWhile Text.isBlank with
    | '\'' :: text =>
      match text.takeWhile (· != '\''), text.dropWhile (· != '\'') with
      | [], _ => none
      | _, [] => none
      | key, _ :: text => some (String.ofList key, text)
    | _ => none
  | _ => none

/-- The session settings read in a text, in order. While `skip` is positive the characters are those
of the setting just read. -/
def settingsFrom (skip : Nat) : List Char → List String
  | [] => []
  | c :: text =>
    match skip with
    | skip + 1 => settingsFrom skip text
    | 0 =>
      match settingAt? (c :: text) with
      | some (key, rest) => key :: settingsFrom (text.length - rest.length) text
      | none => settingsFrom 0 text

/-- The session setting of a text that reads no other. -/
def onlySetting? (text : List Char) : Option String :=
  match settingsFrom 0 text with
  | [] => none
  | key :: keys => if keys.all (· == key) then some key else none

/-! ## Analysis -/

def singular (table : String) : String :=
  match table.toList.reverse with
  | 's' :: 's' :: _ => table
  | 's' :: rest => String.ofList rest.reverse
  | _ => table

/-- The field that a lookup finds: a column of the principal, or the key of another table. -/
def Lookup.field (principals : List String) (lookup : Lookup) : String :=
  let table := Text.lower lookup.table
  if (principals.map Text.lower).contains table then lookup.column
  else if Text.lower lookup.column == "id" then singular table ++ "_id"
  else lookup.column

/-- The path that the one session setting of a provider stands for, unless it is only a guess. -/
def settingPath? (mapping : ProviderMap) (provider : Provider) :
    Except ActorPath.Fault (Option ActorPath) :=
  match onlySetting? provider.body.toList with
  | none => .ok none
  | some key => do
    let path ← (mapping.resolve key).result
    return if path.isGuess then none
      else some { path with confidence := .introspected, source := provider.name }

def namePath? (mapping : ProviderMap) (provider : Provider) :
    Except ActorPath.Fault (Option ActorPath) := do
  let name := Text.lower (Text.lastDottedPart provider.name)
  if Text.occursIn "role".toList name.toList then
    return some (← ActorPath.ofParts ["role"] .inferred provider.name)
  let path ← (mapping.resolve name).result
  return if path.confidence == .inferred then some { path with source := provider.name } else none

/-- The field of the principal that a provider returns, if it can be told. -/
def analyse (mapping : ProviderMap) (principals : List String) (provider : Provider) :
    Except ActorPath.Fault (Option ActorPath) :=
  match lookup? provider.body.toList with
  | some lookup => do
    return some (← ActorPath.ofParts [lookup.field principals] .introspected provider.name)
  | none => do
    match ← settingPath? mapping provider with
    | some path => return some path
    | none => namePath? mapping provider

def discover (mapping : ProviderMap) (principals : List String) (providers : List Provider) :
    Except ActorPath.Fault (Named ActorPath) := do
  let found ← providers.mapM fun provider => do
    return (provider.name, ← provider.analyse mapping principals)
  return .ofList (found.filterMap fun entry => entry.2.map fun path => (entry.1, path))

/-- Tables of principals, unless others are given. -/
def principalTables : List String :=
  ["user", "users"]

end Provider

end RowGuard
