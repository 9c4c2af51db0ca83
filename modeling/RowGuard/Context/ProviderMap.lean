import RowGuard.Context.ActorPath
import RowGuard.Log
import RowGuard.Named
import RowGuard.Text.LetterCase
import RowGuard.Traced

/-!
# Context providers

Policies learn about the acting principal from context providers: functions and session settings. A
context mapping turns the name of a provider into a field of the principal. Names that were
discovered come first, then the well-known ones, then names that follow a pattern. For every other
name the last dotted part is guessed, and the guess is noted.
-/

set_option autoImplicit false

namespace RowGuard

/-- A field that was guessed for a provider. -/
structure Guess where
  provider : String
  field : String
deriving Repr, DecidableEq

def Guess.entry (guess : Guess) : Log.Entry :=
  ⟨.context, .debug,
    "No mapping for context provider " ++ Text.quoted guess.provider ++
      "; guessing principal field " ++ Text.quoted guess.field⟩

/-- The fields that are known by the names of providers; names are held as `normalise` makes
them. -/
structure ProviderMap where
  discovered : Named ActorPath
  builtins : Named ActorPath

namespace ProviderMap

/-! ## Building a mapping -/

/-- The form in which names are compared: without blanks around it, in lower case. -/
def normalise (name : String) : String :=
  Text.lower (Text.trimString name)

inductive Entry where
  | dotted (text : String)
  | path (path : ActorPath)

def Entry.read (name : String) : Entry → Except ActorPath.Fault ActorPath
  | .dotted text => ActorPath.ofDotted text .introspected name
  | .path known => .ok known

/-- Reads entries, one under each normalised name. -/
def tableOf {α : Type} (read : String → α → Except ActorPath.Fault ActorPath)
    (entries : List (String × α)) : Except ActorPath.Fault (Named ActorPath) := do
  let read ← entries.mapM fun entry => do return (normalise entry.1, ← read entry.1 entry.2)
  return .ofList read

def make (discovered : List (String × Entry)) (builtins : List (String × String)) :
    Except ActorPath.Fault ProviderMap := do
  let discovered ← tableOf Entry.read discovered
  let builtins ← tableOf (fun name text => ActorPath.ofDotted text .builtin name) builtins
  return ⟨discovered, builtins⟩

/-- Well-known providers and the fields they stand for. -/
def conventions : List (String × String) :=
  [("get_current_user_id", "id"), ("current_user_id", "id"), ("current_user", "id"),
    ("session_user", "id"), ("auth.uid", "id"), ("auth.user_id", "id"),
    ("app.current_user_id", "id"), ("app.user_id", "id"), ("jwt.claims.sub", "id"),
    ("request.jwt.claims.sub", "id"), ("request.jwt.claim.sub", "id"),
    ("role", "role"), ("get_current_user_role", "role"), ("current_user_role", "role"),
    ("current_role", "role"), ("auth.role", "role"), ("app.current_role", "role"),
    ("app.current_user_role", "role"), ("jwt.claims.role", "role"),
    ("request.jwt.claim.role", "role"), ("request.jwt.claims.role", "role"),
    ("get_current_tenant_id", "tenant_id"), ("current_tenant_id", "tenant_id"),
    ("current_tenant", "tenant_id"), ("app.current_tenant", "tenant_id"),
    ("app.current_tenant_id", "tenant_id"), ("app.tenant_id", "tenant_id"),
    ("jwt.claims.tenant_id", "tenant_id"),
    ("get_current_org_id", "org_id"), ("current_org_id", "org_id"),
    ("current_organization_id", "org_id"), ("app.org_id", "org_id"),
    ("app.organization_id", "org_id"), ("app.current_org_id", "org_id")]

/-- The mapping that knows the conventions only. -/
def standard : ProviderMap :=
  { discovered := {}
    builtins := .ofList (conventions.filterMap fun entry =>
      (ActorPath.ofDotted entry.2 .builtin entry.1).toOption.map fun path => (entry.1, path)) }

/-- Lays overrides over the discovered entries. -/
def layer (mapping : ProviderMap) (overrides : List (String × Entry)) :
    Except ActorPath.Fault ProviderMap :=
  let overrides := overrides.map fun entry => (normalise entry.1, entry.2)
  make ((mapping.discovered.map Entry.path).putAll overrides).entries
    (mapping.builtins.map ActorPath.text).entries

/-! ## The editable table -/

/-- A row of the editable table: a dotted text, or one with its confidence. -/
inductive Row where
  | dotted (text : String)
  | rated (text : Option String) (confidence : String)

inductive TableError where
  | noPath
  | fault (fault : ActorPath.Fault)
deriving Repr, DecidableEq

def Row.entry (name : String) : Row → Except TableError Entry
  | .dotted text => .ok (.dotted text)
  | .rated none _ => .error .noPath
  | .rated (some text) confidence =>
    match ActorPath.ofNames (Text.dottedParts text) confidence name with
    | .ok path => .ok (.path path)
    | .error fault => .error (.fault fault)

/-- Reads an editable table over the conventions. -/
def ofTable (rows : List (String × Row)) : Except TableError ProviderMap := do
  let entries ← rows.mapM fun row => do return (row.1, ← row.2.entry row.1)
  (make entries conventions).mapError .fault

/-- The editable table of a mapping, in the order of the names. -/
def toTable (mapping : ProviderMap) : List (String × Row) :=
  (mapping.discovered.entries.mergeSort fun a b => decide (a.1 ≤ b.1)).map fun entry =>
    (entry.1, .rated (some entry.2.text) entry.2.confidence.name)

def summary (mapping : ProviderMap) : String :=
  "ContextMapping(discovered=" ++ toString mapping.discovered.size ++ ", builtins=" ++
    toString mapping.builtins.size ++ ")"

/-! ## Names that follow a pattern -/

def after? (beginning : List Char) (name : List Char) : Option (List Char) :=
  if beginning.isPrefixOf name then some (name.drop beginning.length) else none

def before? (ending : List Char) (name : List Char) : Option (List Char) :=
  if ending.isSuffixOf name then some (name.take (name.length - ending.length)) else none

/-- The word between a beginning and an ending that make up the whole name. -/
def wordBetween? (beginning ending : String) (name : List Char) : Option String := do
  let rest ← after? beginning.toList name
  let word ← before? ending.toList rest
  if !word.isEmpty && word.all Text.isWordChar then some (String.ofList word) else none

/-- The part of a name before its last dot, and the part behind it. -/
def atLastDot? (name : List Char) : Option (List Char × List Char) :=
  let last := (name.reverse.takeWhile (· != '.')).reverse
  if last.length < name.length then some (name.take (name.length - last.length - 1), last)
  else none

/-- The word behind `current_` in the last part of a dotted name. -/
def namespaced? (name : List Char) : Option String := do
  let (front, last) ← atLastDot? name
  if !front.isEmpty && front.all (fun c => Text.isWordChar c || c == '.') then
    wordBetween? "current_" "" last
  else none

/-- The field that a name stands for by its form. -/
def inferred? (name : List Char) : Option String :=
  (wordBetween? "get_current_" "_id" name).map (· ++ "_id") <|>
  (wordBetween? "get_" "_id_for_user" name).map (· ++ "_id") <|>
  wordBetween? "get_current_" "" name <|>
  wordBetween? "current_" "" name <|>
  namespaced? name

/-! ## Resolution -/

/-- Schemas that may be left out in front of a name. -/
def impliedSchemas : List String :=
  ["public.", "pg_catalog."]

/-- The names under which a provider is looked for. -/
def candidates (name : String) : List String :=
  let key := normalise name
  key :: impliedSchemas.filterMap fun schema =>
    (after? schema.toList key.toList).map String.ofList

def tabled? (mapping : ProviderMap) (name : String) : Option ActorPath :=
  (candidates name).findSome? mapping.discovered.get? <|>
  (candidates name).findSome? mapping.builtins.get?

/-- The field guessed for a provider: the last dotted part of the last candidate. -/
def guessed (name : String) : String :=
  Text.lastDottedPart ((candidates name).getLastD (normalise name))

/-- The field path of a provider. A name whose last dotted part is empty has none. -/
def resolve (mapping : ProviderMap) (name : String) :
    Traced ActorPath.Fault Guess ActorPath :=
  match mapping.tabled? name with
  | some path => .ok path
  | none =>
    match (candidates name).findSome? fun key => inferred? key.toList with
    | some field => .lift (ActorPath.ofParts [field] .inferred name)
    | none => do
      Traced.note ⟨name, guessed name⟩
      .lift (ActorPath.ofParts [guessed name] .fallback name)

end ProviderMap

end RowGuard
