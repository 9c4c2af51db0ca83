import RowGuard.Proofs.Agreement
import RowGuard.Proofs.Predicate.Faults

/-! Policies under other mappings. Compiling looks a provider up by the names that
stand in the policy and by no others, and lowering looks up none. Two mappings that
find the same fields under these names give the same forms of a policy, the same
findings and the same failures; what they log about guesses may differ. -/

set_option autoImplicit false

namespace RowGuard

/-! ## Runs that look alike -/

namespace Compilation

/-- Whether an event is shown to the author of a policy. Guesses are logged only. -/
def Event.isShown : Event → Bool
  | .guess _ => false
  | _ => true

/-- Whether two compilations end in the same way and show the same events. -/
structure Alike {α : Type} (run other : Compilation α) : Prop where
  result : run.result = other.result
  shown : run.trace.filter Event.isShown = other.trace.filter Event.isShown

variable {α β : Type}

theorem Alike.refl (run : Compilation α) : Alike run run :=
  ⟨rfl, rfl⟩

theorem Alike.bind {run other : Compilation α} {next nextOther : α → Compilation β}
    (first : Alike run other) (second : ∀ value, Alike (next value) (nextOther value)) :
    Alike (run >>= next) (other >>= nextOther) := by
  obtain ⟨result, trace⟩ := run
  obtain ⟨_, traceOther⟩ := other
  obtain ⟨rfl, shown⟩ := first
  cases result with
  | error error => exact ⟨rfl, shown⟩
  | ok value =>
      refine ⟨(second value).result, ?_⟩
      change (trace ++ _).filter _ = (traceOther ++ _).filter _
      rw [List.filter_append, List.filter_append, shown, (second value).shown]

theorem Alike.map {run other : Compilation α} (alike : Alike run other) (f : α → β) :
    Alike (do return f (← run)) (do return f (← other)) :=
  alike.bind fun value => .refl (pure (f value))

theorem Alike.filterMap_trace {run other : Compilation α} (alike : Alike run other)
    (f : Event → Option β) (logged : ∀ guess, f (.guess guess) = none) :
    run.trace.filterMap f = other.trace.filterMap f := by
  have shown (events : List Event) :
      (events.filter Event.isShown).filterMap f = events.filterMap f := by
    rw [List.filterMap_filter]
    refine List.filterMap_congr fun event _ => ?_
    cases event with
    | guess guess => exact (logged guess).symm
    | finding _ | roleCheck _ => rfl
  rw [← shown, alike.shown, shown]

theorem Alike.diagnostics {run other : Compilation α} (alike : Alike run other) :
    diagnostics run.trace = diagnostics other.trace :=
  congrArg Diagnostic.dedupe (alike.filterMap_trace Event.finding? fun _ => rfl)

theorem Alike.roleChecks {run other : Compilation α} (alike : Alike run other) :
    roleChecks run.trace = roleChecks other.trace :=
  alike.filterMap_trace Event.roleCheck? fun _ => rfl

end Compilation

open Compilation (Alike)

/-! ## Names -/

instance (mapping other : ProviderMap) (name : String) : Decidable (mapping.SameFor other name) :=
  inferInstanceAs (Decidable (_ = _))

/-- Whether two mappings find the same under every name that an expression looks up. -/
abbrev Expr.SameUnder (mapping other : ProviderMap) (e : Expr) : Prop :=
  e.Everywhere fun node => ∀ name ∈ node.lookup?, mapping.SameFor other name

namespace Scope

def remapped (scope : Scope) (mapping : ProviderMap) : Scope :=
  { scope with mapping }

variable {scope : Scope} {mapping : ProviderMap} {name : String}

/-- What follows a lookup sees the segments of the path and its confidence. -/
theorem alike_resolve_bind {α : Type} {next nextOther : ActorPath → Compilation α}
    (same : scope.mapping.SameFor mapping name)
    (later : ∀ p q, p.parts = q.parts → p.confidence = q.confidence →
      Alike (next p) (nextOther q)) :
    Alike (scope.resolve name >>= next) ((scope.remapped mapping).resolve name >>= nextOther) := by
  have silent (guesses : List Guess) :
      (guesses.map Compilation.Event.guess).filter Compilation.Event.isShown = [] := by
    simp [Compilation.Event.isShown]
  unfold resolve remapped
  unfold ProviderMap.SameFor at same
  generalize scope.mapping.resolve name = lookup, mapping.resolve name = other at same ⊢
  obtain ⟨found, guesses⟩ := lookup
  obtain ⟨foundOther, guessesOther⟩ := other
  cases found with
  | error fault =>
      cases foundOther with
      | error faultOther =>
          cases same
          exact ⟨rfl, (silent guesses).trans (silent guessesOther).symm⟩
      | ok q => cases same
  | ok p =>
      cases foundOther with
      | error faultOther => cases same
      | ok q =>
          obtain ⟨parts, confidence⟩ := Prod.ext_iff.mp (Except.ok.inj same)
          obtain ⟨result, shown⟩ := later p q parts confidence
          refine ⟨result, ?_⟩
          change (guesses.map _ ++ _).filter _ = (guessesOther.map _ ++ _).filter _
          rw [List.filter_append, List.filter_append, silent, silent, shown]

theorem alike_actorField (same : scope.mapping.SameFor mapping name) (text : String) :
    Alike (scope.actorField name text) ((scope.remapped mapping).actorField name text) := by
  refine alike_resolve_bind same fun p q parts confidence => ?_
  have guess : p.isGuess = q.isGuess := congrArg (· == .fallback) confidence
  have dotted : p.text = q.text := congrArg (Text.joinWith ".") parts
  simp only [guess, dotted, parts]
  exact .refl _

theorem alike_provider (same : scope.mapping.SameFor mapping name) :
    Alike (scope.provider? name) ((scope.remapped mapping).provider? name) := by
  refine alike_resolve_bind same fun p q parts confidence => ?_
  have guess : p.isGuess = q.isGuess := congrArg (· == .fallback) confidence
  simp only [guess, parts]
  exact .refl _

theorem alike_locate (actorFirst : Bool) {qualifier : Option String}
    (same : ∀ looked ∈ (Expr.column name qualifier).lookup?,
      scope.mapping.SameFor mapping looked) :
    Alike (scope.locate actorFirst name qualifier)
      ((scope.remapped mapping).locate actorFirst name qualifier) := by
  have location : Location.ofName (scope.remapped mapping).graph (scope.remapped mapping).entity
      name qualifier = Location.ofName scope.graph scope.entity name qualifier := rfl
  unfold locate
  rw [location]
  cases Location.ofName scope.graph scope.entity name qualifier with
  | direct _ => exact .refl _
  | notFound _ _ =>
      cases qualifier with
      | none => exact (alike_provider (same name rfl)).bind fun _ => .refl _
      | some _ => exact .refl _
  | related _ _ _ _ | junction _ =>
      cases qualifier with
      | none =>
          cases actorFirst with
          | false => exact .refl _
          | true => exact (alike_provider (same name rfl)).bind fun _ => .refl _
      | some _ => exact .refl _

end Scope

namespace Predicate

variable {scope : Scope} {mapping : ProviderMap}

/-! ## Conditions -/

theorem alike_side (actorFirst : Bool) {e : Expr}
    (same : ∀ name ∈ e.lookup?, scope.mapping.SameFor mapping name) :
    Alike (side? scope actorFirst e) (side? (scope.remapped mapping) actorFirst e) := by
  cases e with
  | call name arguments =>
      cases arguments with
      | nil =>
          refine Alike.bind (.refl _) fun text => ?_
          exact (Scope.alike_actorField (same name rfl) text).map _
      | cons _ _ => exact .refl _
  | setting key =>
      refine Alike.bind (.refl _) fun text => ?_
      exact (Scope.alike_actorField (same key rfl) text).map _
  | column name qualifier => exact (Scope.alike_locate _ same).bind fun _ => .refl _
  | any _ | all _ | not _ | condition _ _ _ | choice _ _ _ | existence _ _ | subquery _ _
  | literal _ | array _ | foreign _ => exact .refl _

theorem alike_subject (actorFirst : Bool) {e : Expr}
    (same : e.SameUnder scope.mapping mapping) :
    Alike (subject? scope actorFirst e) (subject? (scope.remapped mapping) actorFirst e) :=
  (alike_side actorFirst same.here).bind fun _ => .refl _

theorem alike_keys {branches : List (Expr × Expr)}
    (same : ∀ branch ∈ branches, branch.1.SameUnder scope.mapping mapping) :
    Alike (keys? scope branches) (keys? (scope.remapped mapping) branches) := by
  induction branches with
  | nil => exact .refl _
  | cons branch branches ih =>
      rw [List.forall_mem_cons] at same
      refine (alike_subject Bool.false same.1).bind fun key => ?_
      cases key with
      | none => exact .refl _
      | some key => exact (ih same.2).map _

section Conditions

variable {left right : Expr} (leftSame : left.SameUnder scope.mapping mapping)
include leftSame

theorem alike_ofComparison (comparator : Comparator)
    (rightSame : right.SameUnder scope.mapping mapping) :
    Alike (ofComparison scope comparator left right)
      (ofComparison (scope.remapped mapping) comparator left right) := by
  refine (alike_side Bool.false leftSame.here).bind fun leftSide => ?_
  exact (alike_side Bool.false rightSame.here).bind fun rightSide => .refl _

theorem alike_ofMembership (negated : Bool) (rightSame : right.SameUnder scope.mapping mapping) :
    Alike (ofMembership scope negated left right)
      (ofMembership (scope.remapped mapping) negated left right) := by
  refine (alike_side Bool.false leftSame.here).bind fun leftSide => ?_
  exact (alike_side Bool.false rightSame.here).bind fun rightSide => .refl _

theorem alike_ofEqualities {items : List Expr}
    (same : ∀ item ∈ items, item.SameUnder scope.mapping mapping) :
    Alike (ofEqualities scope left items) (ofEqualities (scope.remapped mapping) left items) := by
  induction items with
  | nil => exact .refl _
  | cons item items ih =>
      rw [List.forall_mem_cons] at same
      refine (alike_ofComparison leftSame .eq same.1).bind fun p => ?_
      exact (ih same.2).map _

theorem alike_ofCondition (operator : Operator)
    (rightSame : right.SameUnder scope.mapping mapping) :
    Alike (ofCondition scope operator left right)
      (ofCondition (scope.remapped mapping) operator left right) := by
  cases operator with
  | compare comparator => exact alike_ofComparison leftSame comparator rightSame
  | null negated => exact (alike_side Bool.false leftSame.here).bind fun side => .refl _
  | member negated =>
      have whole := alike_ofMembership leftSame negated rightSame
      cases right with
      | subquery source body => exact .refl _
      | array items =>
          simp only [ofCondition]
          split
          · exact whole
          · have equalities := alike_ofEqualities leftSame (Expr.everywhere_array.mp rightSame).2
            exact equalities.bind fun ps => .refl _
      | any _ | all _ | not _ | condition _ _ _ | choice _ _ _ | existence _ _ | call _ _
      | column _ _ | setting _ | literal _ | foreign _ => exact whole

end Conditions

theorem alike_ofValue {e : Expr} (same : e.SameUnder scope.mapping mapping) :
    Alike (ofValue scope e) (ofValue (scope.remapped mapping) e) :=
  (alike_side Bool.false same.here).bind fun _ => .refl _

/-! ## Expressions -/

mutual

/-- Compiling sees of a mapping only what it finds under the names that are looked up. -/
theorem alike_compile (e : Expr) (same : e.SameUnder scope.mapping mapping) :
    Alike (compile scope e) (compile (scope.remapped mapping) e) := by
  cases e with
  | any es => exact (alike_compileAll es (Expr.everywhere_any.mp same).2).map _
  | all es => exact (alike_compileAll es (Expr.everywhere_all.mp same).2).map _
  | not e =>
      have inside := alike_compile e (Expr.everywhere_not.mp same).2
      cases e with
      | existence _ _ | subquery _ _ => exact .refl _
      | any _ | all _ | not _ | condition _ _ _ | choice _ _ _ | call _ _ | column _ _ | setting _
      | literal _ | array _ | foreign _ => exact inside.map negate
  | condition operator left right =>
      obtain ⟨_, leftSame, rightSame⟩ := Expr.everywhere_condition.mp same
      exact (alike_ofCondition leftSame operator rightSame).map markRole
  | choice subject branches otherwise =>
      obtain ⟨_, first, each, last⟩ := Expr.everywhere_choice.mp same
      cases subject with
      | none =>
          refine (alike_compileBranches branches each).bind fun bs => ?_
          exact (alike_compileOtherwise otherwise last).map _
      | some subject =>
          refine (alike_subject Bool.true (first subject rfl)).bind fun operand => ?_
          cases operand with
          | none => exact .refl _
          | some operand =>
              have keys := alike_keys fun branch member => (each branch member).1
              refine keys.bind fun keys => ?_
              cases keys with
              | none => exact .refl _
              | some keys =>
                  refine (alike_compileOutcomes branches each).bind fun outcomes => ?_
                  exact (alike_compileOtherwise otherwise last).map _
  | call name arguments =>
      cases arguments with
      | nil => exact (alike_ofValue same).map markRole
      | cons _ _ => exact .refl _
  | column _ _ | setting _ => exact (alike_ofValue same).map markRole
  | literal _ | existence _ _ | subquery _ _ | array _ | foreign _ => exact .refl _
termination_by structural e

theorem alike_compileAll (es : List Expr) (same : ∀ e ∈ es, e.SameUnder scope.mapping mapping) :
    Alike (compileAll scope es) (compileAll (scope.remapped mapping) es) := by
  cases es with
  | nil => exact .refl _
  | cons e es =>
      rw [List.forall_mem_cons] at same
      refine (alike_compile e same.1).bind fun p => ?_
      exact (alike_compileAll es same.2).map _
termination_by structural es

theorem alike_compileBranches (branches : List (Expr × Expr))
    (same : ∀ branch ∈ branches,
      branch.1.SameUnder scope.mapping mapping ∧ branch.2.SameUnder scope.mapping mapping) :
    Alike (compileBranches scope branches) (compileBranches (scope.remapped mapping) branches) := by
  cases branches with
  | nil => exact .refl _
  | cons branch branches =>
      obtain ⟨key, outcome⟩ := branch
      rw [List.forall_mem_cons] at same
      refine (alike_compile key same.1.1).bind fun k => ?_
      refine (alike_compile outcome same.1.2).bind fun o => ?_
      exact (alike_compileBranches branches same.2).map _
termination_by structural branches

theorem alike_compileOutcomes (branches : List (Expr × Expr))
    (same : ∀ branch ∈ branches,
      branch.1.SameUnder scope.mapping mapping ∧ branch.2.SameUnder scope.mapping mapping) :
    Alike (compileOutcomes scope branches) (compileOutcomes (scope.remapped mapping) branches) := by
  cases branches with
  | nil => exact .refl _
  | cons branch branches =>
      obtain ⟨key, outcome⟩ := branch
      rw [List.forall_mem_cons] at same
      refine (alike_compile outcome same.1.2).bind fun o => ?_
      exact (alike_compileOutcomes branches same.2).map _
termination_by structural branches

theorem alike_compileOtherwise (otherwise : Option Expr)
    (same : ∀ e ∈ otherwise, e.SameUnder scope.mapping mapping) :
    Alike (compileOtherwise scope otherwise)
      (compileOtherwise (scope.remapped mapping) otherwise) := by
  cases otherwise with
  | none => exact .refl _
  | some e => exact alike_compile e (same e rfl)
termination_by structural otherwise

end

end Predicate

/-! ## Row filters -/

/-- Lowering reads the schema and the configuration, and no mapping. -/
theorem RowFilter.lower_remapped (scope : Scope) (mapping : ProviderMap) (top : Bool)
    (p : Predicate) : lower (scope.remapped mapping) top p = lower scope top p := by
  -- The recursion is the same term on both sides once the mapping is projected away.
  delta lower
  rfl

namespace Scope

variable {scope : Scope} {mapping : ProviderMap} {e : Expr}

theorem recordCheck_remapped (same : e.SameUnder scope.mapping mapping) :
    ((scope.remapped mapping).recordCheck e).result = (scope.recordCheck e).result := by
  have alike := Predicate.alike_compile e same
  simp only [recordCheck, alike.result, alike.diagnostics]

theorem rowAccess_remapped (same : e.SameUnder scope.mapping mapping) :
    ((scope.remapped mapping).rowAccess e).result = (scope.rowAccess e).result := by
  have alike := (Predicate.alike_compile e same).bind fun p =>
    Alike.refl (RowFilter.lower scope true p)
  simp only [rowAccess, RowFilter.lower_remapped, alike.result, alike.diagnostics, alike.roleChecks]

theorem make_bind {α : Type} {first second : ProviderMap}
    {next nextOther : Scope → Except CompileError α}
    (same : ∀ scope, scope.mapping = first → next scope = nextOther (scope.remapped second))
    (graph : Graph) (entity : String) (operation : Operation) (config : Config) :
    make first graph entity operation config >>= next =
      make second graph entity operation config >>= nextOther := by
  unfold make
  cases graph.entity entity with
  | error _ => rfl
  | ok found =>
      have known (preferred : Option String) :
          (do
            let principal ← (graph.principal preferred).mapError CompileError.schema
            return (⟨first, graph, found, operation, config, principal⟩ : Scope)) >>= next =
          (do
            let principal ← (graph.principal preferred).mapError CompileError.schema
            return (⟨second, graph, found, operation, config, principal⟩ : Scope)) >>=
            nextOther := by
        cases graph.principal preferred with
        | error _ => rfl
        | ok principal => exact same ⟨first, graph, found, operation, config, principal⟩ rfl
      cases config.principal with
      | null => exact known none
      | text name => exact known (some name)
      | bool _ | int _ | decimal _ | infinite _ | float _ | undefined _ | list _ | tuple _ | mapping _
      | object _ _ _ _ | builtin _ _ _ => rfl

end Scope

/-- What is looked up in an expression is one of its providers or a bare column name. -/
theorem Expr.sameUnder_of_providers {first second : ProviderMap} {e : Expr}
    (providers : ∀ name ∈ e.providers, first.SameFor second name)
    (columns : ∀ name, .column name none ∈ e.walk → first.SameFor second name) :
    e.SameUnder first second := by
  intro node member name looked
  have provided (provides : node.provider? = some name) : first.SameFor second name :=
    providers name (List.mem_eraseDups.mpr (List.mem_filterMap.mpr ⟨node, member, provides⟩))
  cases node with
  | call called arguments =>
      cases arguments with
      | nil => exact provided looked
      | cons _ _ => cases looked
  | setting key => exact provided looked
  | column column qualifier =>
      cases qualifier with
      | none =>
          cases looked
          exact columns name member
      | some _ => cases looked
  | any _ | all _ | not _ | condition _ _ _ | choice _ _ _ | existence _ _ | subquery _ _
  | literal _ | array _ | foreign _ => cases looked

/-- Mappings that find the same field, with the same confidence, under every provider and every
bare column name of a policy compile it to the same record check and the same row filter, with the
same findings and role checks, or fail in the same way. -/
theorem compiled_eq_of_sameFor {first second : ProviderMap} {e : Expr}
    (providers : ∀ name ∈ e.providers, first.SameFor second name)
    (columns : ∀ name, .column name none ∈ e.walk → first.SameFor second name)
    (graph : Graph) (entity : String) (operation : Operation) (config : Config) :
    (do ((← Scope.make first graph entity operation config).recordCheck e).result) =
        (do ((← Scope.make second graph entity operation config).recordCheck e).result) ∧
      (do ((← Scope.make first graph entity operation config).rowAccess e).result) =
        (do ((← Scope.make second graph entity operation config).rowAccess e).result) := by
  have same := Expr.sameUnder_of_providers providers columns
  constructor
  · refine Scope.make_bind (fun scope mapped => ?_) graph entity operation config
    exact (Scope.recordCheck_remapped (mapped ▸ same)).symm
  · refine Scope.make_bind (fun scope mapped => ?_) graph entity operation config
    exact (Scope.rowAccess_remapped (mapped ▸ same)).symm

/-- The mapping for posts with a field of the actor under the name of a column. -/
def ProviderMap.tenancy : ProviderMap :=
  { Scope.blog.mapping with
    discovered := ⟨[("name", ⟨["tenant", "name"], .introspected, "tenant_name", by decide⟩)]⟩ }

theorem compiled_eq_of_sameFor_openPosts :
    ¬Scope.blog.mapping.SameFor .tenancy "name" ∧
      (∀ name ∈ Expr.openPosts.providers, Scope.blog.mapping.SameFor .tenancy name) ∧
      (∀ name, .column name none ∈ Expr.openPosts.walk →
        Scope.blog.mapping.SameFor .tenancy name) ∧
      ∃ scope check access, Scope.make .tenancy .blog "Post" .select {} = .ok scope ∧
        (scope.recordCheck .openPosts).result = .ok check ∧
        (scope.rowAccess .openPosts).result = .ok access ∧
        (do ((← Scope.make Scope.blog.mapping .blog "Post" .select {}).recordCheck
          .openPosts).result) = .ok check ∧
        (do ((← Scope.make Scope.blog.mapping .blog "Post" .select {}).rowAccess
          .openPosts).result) = .ok access := by
  have looked : Expr.openPosts.SameUnder Scope.blog.mapping .tenancy := by decide +kernel
  have columns (name : String) (member : .column name none ∈ Expr.openPosts.walk) :
      Scope.blog.mapping.SameFor .tenancy name :=
    looked _ member name rfl
  have providers :
      ∀ name ∈ Expr.openPosts.providers, Scope.blog.mapping.SameFor .tenancy name := by
    decide +kernel
  obtain ⟨scope, made, ⟨check, checked⟩, access, built⟩ : ∃ scope,
      Scope.make .tenancy .blog "Post" .select {} = .ok scope ∧
        (∃ check, (scope.recordCheck .openPosts).result = .ok check) ∧
        ∃ access, (scope.rowAccess .openPosts).result = .ok access :=
    ⟨_, by with_unfolding_all rfl, ⟨_, by with_unfolding_all rfl⟩, _,
      by with_unfolding_all rfl⟩
  obtain ⟨checks, rows⟩ := compiled_eq_of_sameFor providers columns .blog "Post" .select {}
  rw [made] at checks rows
  exact ⟨by decide +kernel, providers, columns, scope, check, access, made, checked, built,
    checks.trans checked, rows.trans built⟩

end RowGuard
