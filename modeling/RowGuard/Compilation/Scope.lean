import RowGuard.Compilation.Basic
import RowGuard.Expr.Printer

/-!
# The scope of a policy

What the names in a policy mean: the entity it protects, the schema around it, the context providers
and the acting principal.
-/

set_option autoImplicit false

namespace RowGuard

/-- What a policy is compiled against. -/
structure Scope where
  mapping : ProviderMap
  graph : Graph
  entity : Entity
  operation : Operation
  config : Config
  /-- The entity of the acting principal, if it is known. -/
  principal : Option Entity

/-- What a column name refers to. -/
inductive Reference where
  | field (location : Location)
  | actor (path : List String)

namespace Scope

def make (mapping : ProviderMap) (graph : Graph) (entity : String) (operation : Operation)
    (config : Config) : Except CompileError Scope := do
  let entity ← (graph.entity entity).mapError .schema
  let preferred ← match config.principal with
    | .null => pure none
    | .text name => pure (some name)
    | value => throw (.badPrincipal value.isKeyable)
  let principal ← (graph.principal preferred).mapError .schema
  return ⟨mapping, graph, entity, operation, config, principal⟩

def note (scope : Scope) (category : Diagnostic.Category) (expression message : String)
    (related : Option String) : Compilation Unit :=
  Traced.note (.finding
    { entity := scope.entity.name, operation := scope.operation, category, expression, message,
      related })

/-! ## Constructs without a meaning -/

def outcome (allowed : Bool) : String :=
  if allowed then "allow" else "deny"

def describe : String → String
  | "exists" => "EXISTS subquery"
  | "subquery" => "subquery"
  | "function" => "function call with arguments"
  | "comparison" => "comparison"
  | "case" => "CASE expression"
  | "expression" => "expression"
  | kind => kind

def unresolvedMessage (kind : String) (allowed : Bool) (related : Option String) : String :=
  let message := "Cannot translate " ++ describe kind ++ "; compiled as " ++ outcome allowed
  match related with
  | none => message
  | some "" => message
  | some entity => message ++ " (references " ++ entity ++ ")"

/-- Stands in for a construct without a meaning, and leaves a finding. -/
def unresolved (scope : Scope) (e : Expr) (kind : String) (related : Option String) :
    Compilation Unresolved := do
  let text ← Compilation.ofExcept e.print
  let allowed := scope.config.failOpen
  scope.note .unresolvedConstruct text (unresolvedMessage kind allowed related) related
  return ⟨kind, text, .bool allowed, related⟩

/-! ## Context providers -/

/-- A name without the letters `s` at its end. -/
def withoutPlural (name : String) : String :=
  String.ofList (name.toList.reverse.dropWhile (· == 's')).reverse

def beforeId? (name : String) : Option String :=
  (ProviderMap.before? "_id".toList name.toList).map String.ofList

/-- The field of the principal that a key stands for. A field of the principal is itself; the key of
the principal's own entity is its primary key; the key of a related entity is read through the
relation. -/
def refineKey (scope : Scope) (principal : Entity) (field : String) :
    Except CompileError (List String) :=
  match beforeId? field with
  | none => .ok [field]
  | some stem =>
    let own := Text.lower principal.name
    if principal.hasScalar field then .ok [field]
    else if stem == own || stem == withoutPlural own then .ok (principal.primaryKey.take 1)
    else match principal.relation? stem with
      | none => .ok [field]
      | some relation =>
        match scope.graph.target? relation with
        | none => .ok [field]
        | some target =>
          match target.primaryKey with
          | [] => .error .emptyPath
          | key :: _ => .ok [relation.name, key]

def refine (scope : Scope) (parts : List String) : Except CompileError (List String) :=
  match scope.principal, parts with
  | some principal, [field] => scope.refineKey principal field
  | _, _ => .ok parts

def resolve (scope : Scope) (name : String) : Compilation ActorPath :=
  ((scope.mapping.resolve name).mapError .provider).mapTrace .guess

/-- The field of the actor that a provider stands for. A guess leaves a finding about the text. -/
def actorField (scope : Scope) (name text : String) : Compilation Operand := do
  let path ← scope.resolve name
  if path.isGuess then
    scope.note .lowConfidenceMapping text
      ("No known mapping for context provider " ++ Text.quoted name ++
        "; guessed principal field " ++ path.text) none
  return .actor (← Traced.lift (scope.refine path.parts)) name

/-! ## Columns -/

/-- The field of the actor that an unqualified name stands for, unless it is only a guess. -/
def provider? (scope : Scope) (name : String) : Compilation (Option (List String)) := do
  let path ← scope.resolve name
  if path.isGuess then return none
  else return some (← Traced.lift (scope.refine path.parts))

/-- What a column name refers to: a column of the entity, or else a field further away, or else a
provider of that name. With `actorFirst` a provider comes before fields further away. -/
def locate (scope : Scope) (actorFirst : Bool) (name : String) (qualifier : Option String) :
    Compilation Reference :=
  let location := Location.ofName scope.graph scope.entity name qualifier
  let otherwise : Compilation Reference :=
    match location with
    | .notFound .. =>
      .fail (.schema (.unreachable scope.entity.name (Location.qualified name qualifier)))
    | location => return .field location
  let providerFirst : Compilation Reference := do
    match ← scope.provider? name with
    | some path => return .actor path
    | none => otherwise
  match location, qualifier with
  | .direct _, _ => return .field location
  | .notFound .., none => providerFirst
  | _, none => if actorFirst then providerFirst else otherwise
  | _, some _ => otherwise

end Scope

end RowGuard
