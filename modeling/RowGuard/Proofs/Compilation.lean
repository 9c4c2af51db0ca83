import RowGuard.Compilation.Scope
import RowGuard.Proofs.Traced

/-! The events of compilations. A construct without a meaning of its own is
reported by its text, and a compilation that reports none is quiet. Which
constructs a compilation may leave is settled by what it reports. -/

set_option autoImplicit false

namespace RowGuard

namespace Compilation

section Runs

variable {α : Type} {value : α} {events : List Event}

theorem mapError_eq_ok_iff {ε δ : Type} {convert : ε → δ} {outcome : Except ε α} :
    outcome.mapError convert = .ok value ↔ outcome = .ok value := by
  cases outcome with
  | error _ => exact ⟨nofun, nofun⟩
  | ok _ =>
      constructor
      · rintro ⟨⟩
        rfl
      · rintro ⟨⟩
        rfl

@[simp]
theorem ofExcept_eq_ok_iff {outcome : Except Unsupported α} :
    ofExcept outcome = ⟨.ok value, events⟩ ↔ outcome = .ok value ∧ events = [] := by
  rw [ofExcept, Traced.lift_eq_ok_iff, mapError_eq_ok_iff]

@[simp]
theorem ofEvaluation_eq_ok_iff {evaluation : Evaluation α} :
    ofEvaluation evaluation = ⟨.ok value, events⟩ ↔
      evaluation.result = .ok value ∧ events = [] := by
  rw [ofEvaluation, Traced.lift_eq_ok_iff, mapError_eq_ok_iff]

end Runs

/-! ## Reports -/

/-- Whether a construct without a meaning of its own is reported. -/
def Reports (events : List Event) (text : String) : Prop :=
  ∃ diagnostic, .finding diagnostic ∈ events ∧ diagnostic.category = .unresolvedConstruct ∧
    diagnostic.expression = text

def Quiet (events : List Event) : Prop :=
  ∀ text, ¬Reports events text

variable {events before after : List Event}

theorem Reports.mono {text : String} (reported : Reports before text) (within : before ⊆ events) :
    Reports events text := by
  obtain ⟨diagnostic, noted, about⟩ := reported
  exact ⟨diagnostic, within noted, about⟩

theorem Quiet.mono (quiet : Quiet events) (within : before ⊆ events) : Quiet before :=
  fun text reported => quiet text (reported.mono within)

theorem quiet_append_iff : Quiet (before ++ after) ↔ Quiet before ∧ Quiet after := by
  constructor
  · intro quiet
    exact ⟨quiet.mono (List.subset_append_left _ _), quiet.mono (List.subset_append_right _ _)⟩
  · rintro ⟨first, second⟩ text ⟨diagnostic, noted, about⟩
    rcases List.mem_append.mp noted with noted | noted
    · exact first text ⟨diagnostic, noted, about⟩
    · exact second text ⟨diagnostic, noted, about⟩

theorem mem_diagnostics_iff {d : Diagnostic} : d ∈ diagnostics events ↔ .finding d ∈ events := by
  rw [diagnostics, Diagnostic.dedupe, List.mem_eraseDups, List.mem_filterMap]
  constructor
  · rintro ⟨event, noted, same⟩
    cases event with
    | finding diagnostic =>
        cases same
        exact noted
    | guess _ | roleCheck _ => cases same
  · intro noted
    exact ⟨_, noted, rfl⟩

theorem diagnostics_subset (within : before ⊆ events) : diagnostics before ⊆ diagnostics events :=
  fun _ found => mem_diagnostics_iff.mpr (within (mem_diagnostics_iff.mp found))

theorem quiet_iff_diagnostics :
    Quiet events ↔ ∀ d ∈ diagnostics events, d.category ≠ .unresolvedConstruct := by
  constructor
  · intro quiet d member about
    exact quiet d.expression ⟨d, mem_diagnostics_iff.mp member, about, rfl⟩
  · rintro silent text ⟨d, noted, about, _⟩
    exact silent d (mem_diagnostics_iff.mpr noted) about

@[simp]
theorem roleChecks_append (before after : List Event) :
    roleChecks (before ++ after) = roleChecks before ++ roleChecks after :=
  List.filterMap_append

end Compilation

/-- A class of constructs that holds what is reported among events, and negations. -/
structure Scope.Admits (scope : Scope) (events : List Compilation.Event)
    (admitted : Unresolved → Prop) : Prop where
  negate (construct : Unresolved) : admitted construct → admitted construct.negate
  reported (construct : Unresolved) : construct.default = .bool scope.config.failOpen →
    Compilation.Reports events construct.text → admitted construct

namespace Scope

variable {scope : Scope} {events before after : List Compilation.Event}
  {admitted : Unresolved → Prop}

theorem Admits.mono (admits : scope.Admits events admitted) (within : before ⊆ events) :
    scope.Admits before admitted where
  negate := admits.negate
  reported construct default reported := admits.reported construct default (reported.mono within)

theorem Admits.left (admits : scope.Admits (before ++ after) admitted) :
    scope.Admits before admitted :=
  admits.mono (List.subset_append_left _ _)

theorem Admits.right (admits : scope.Admits (before ++ after) admitted) :
    scope.Admits after admitted :=
  admits.mono (List.subset_append_right _ _)

theorem admits_none (quiet : Compilation.Quiet events) : scope.Admits events fun _ => False where
  negate _ := id
  reported construct _ reported := quiet construct.text reported

theorem quiet_of_admits (admits : scope.Admits events fun _ => False) :
    Compilation.Quiet events :=
  fun text reported => admits.reported ⟨"", text, .bool scope.config.failOpen, none⟩ rfl reported

theorem note_eq_ok_iff {category : Diagnostic.Category} {expression message : String}
    {related : Option String} {done : Unit} :
    scope.note category expression message related = ⟨.ok done, events⟩ ↔
      events = [.finding
        { entity := scope.entity.name, operation := scope.operation, category, expression, message,
          related }] :=
  Traced.note_eq_ok_iff

/-- Whether a compilation may leave an event: its findings are about the operation on the entity,
and which policies they belong to is not known yet. -/
def Issues (scope : Scope) (checks : Prop) : Compilation.Event → Prop
  | .finding diagnostic =>
    diagnostic.entity = scope.entity.name ∧ diagnostic.operation = scope.operation ∧
      diagnostic.policy = none
  | .guess _ => True
  | .roleCheck _ => checks

/-- A class of events that holds what the compilation of a policy leaves: guesses, and findings about
constructs and guessed fields. -/
structure Allows (scope : Scope) (allowed : Compilation.Event → Prop) : Prop where
  guess (guess : Guess) : allowed (.guess guess)
  construct (expression message : String) (related : Option String) :
    allowed (.finding
      { entity := scope.entity.name, operation := scope.operation, category := .unresolvedConstruct,
        expression, message, related })
  guessed (expression message : String) :
    allowed (.finding
      { entity := scope.entity.name, operation := scope.operation, category := .lowConfidenceMapping,
        expression, message })

theorem allows_issues (scope : Scope) (checks : Prop) : scope.Allows (scope.Issues checks) where
  guess _ := trivial
  construct _ _ _ := ⟨rfl, rfl, rfl⟩
  guessed _ _ := ⟨rfl, rfl, rfl⟩

/-- The runs that look up a name: a field, a failure, or a provider of the name in front of
another such run. -/
inductive Locates (scope : Scope) (name : String) : Compilation Reference → Prop where
  | field (location : Location) : Locates scope name (pure (.field location))
  | fail (error : CompileError) : Locates scope name (.fail error)
  | provider {next : Option (List String) → Compilation Reference} :
      (∀ path, next (some path) = pure (.actor path)) → Locates scope name (next none) →
      Locates scope name (scope.provider? name >>= next)

theorem locates_locate (actorFirst : Bool) (name : String) (qualifier : Option String) :
    scope.Locates name (scope.locate actorFirst name qualifier) := by
  unfold locate
  cases Location.ofName scope.graph scope.entity name qualifier with
  | direct _ => exact .field _
  | notFound _ _ =>
      cases qualifier with
      | none => exact .provider (fun _ => rfl) (.fail _)
      | some _ => exact .fail _
  | related _ _ _ _ | junction _ =>
      cases qualifier with
      | none =>
          cases actorFirst with
          | false => exact .field _
          | true => exact .provider (fun _ => rfl) (.field _)
      | some _ => exact .field _

end Scope

end RowGuard
