import RowGuard.Proofs.Agreement
import RowGuard.Proofs.Context.Resolution
import RowGuard.Proofs.Expr.Printing
import RowGuard.Proofs.Predicate.Compilation

/-! Why policies do not compile. A parsed policy fails by the schema, or at a
provider: its name has no field, or the field is the key of a related entity
that has none. Conversely a provider without a field fails every condition that
looks it up. -/

set_option autoImplicit false

namespace RowGuard

/-! ## Texts of parsed policies -/

namespace Expr

def Printable (e : Expr) : Prop :=
  ∃ text, e.print = .ok text

variable {e left right : Expr} {es : List Expr}

theorem Everywhere.here {holds : Expr → Prop} (everywhere : e.Everywhere holds) : holds e := by
  refine everywhere e ?_
  cases e <;> exact .head _

theorem exists_printItems (parent : Nat) (each : ∀ e ∈ es, e.Everywhere Printable) :
    ∃ texts, printItems parent es = .ok texts := by
  induction es with
  | nil => exact ⟨[], rfl⟩
  | cons e es ih =>
      rw [List.forall_mem_cons] at each
      obtain ⟨text, first⟩ := each.1.here
      obtain ⟨texts, rest⟩ := ih each.2
      exact ⟨_, printItems_cons first rest⟩

theorem exists_printBranches {branches : List (Expr × Expr)}
    (each : ∀ branch ∈ branches,
      branch.1.Everywhere Printable ∧ branch.2.Everywhere Printable) :
    ∃ texts, printBranches branches = .ok texts := by
  induction branches with
  | nil => exact ⟨[], rfl⟩
  | cons branch branches ih =>
      rw [List.forall_mem_cons] at each
      obtain ⟨keyText, key⟩ := each.1.1.here
      obtain ⟨outcomeText, outcome⟩ := each.1.2.here
      obtain ⟨texts, rest⟩ := ih each.2
      exact ⟨_, printBranches_cons key outcome rest⟩

theorem exists_printOption (lead : String) {inner : Option Expr}
    (each : ∀ e ∈ inner, e.Everywhere Printable) : ∃ texts, printOption lead inner = .ok texts := by
  cases inner with
  | none => exact ⟨[], rfl⟩
  | some e =>
      obtain ⟨text, printed⟩ := (each e rfl).here
      exact ⟨_, printOption_some lead printed⟩

theorem printable_member {negated : Bool} (leftPrints : left.Everywhere Printable)
    (rightPrints : right.Everywhere Printable) :
    (Expr.condition (.member negated) left right).Printable := by
  obtain ⟨start, first⟩ := leftPrints.here
  obtain ⟨finish, second⟩ := rightPrints.here
  cases right with
  | array items =>
      obtain ⟨texts, rest⟩ := exists_printItems 0 (everywhere_array.mp rightPrints).2
      exact ⟨_, (Writes.listed negated first rest).printed⟩
  | subquery target body => exact ⟨_, (Writes.selected negated first).printed⟩
  | any _ | all _ | not _ | condition _ _ _ | choice _ _ _ | existence _ _ | call _ _ | column _ _
  | setting _ | literal _ | foreign _ =>
      exact ⟨_, (Writes.quantified negated first (by simp) (by simp) second).printed⟩

theorem printable_call (name : String) (each : ∀ e ∈ es, e.Everywhere Printable) :
    (Expr.call name es).Printable := by
  obtain ⟨texts, items⟩ := exists_printItems 0 each
  by_cases bare : (es.isEmpty && bareFunctions.contains name) = Bool.true
  · rw [Bool.and_eq_true, List.isEmpty_iff] at bare
    obtain ⟨rfl, known⟩ := bare
    exact ⟨_, (Writes.bareCall known).printed⟩
  · exact ⟨_, (Writes.call bare items).printed⟩

theorem printable_column (name : String) (qualifier : Option String) :
    (Expr.column name qualifier).Printable := by
  unfold Printable print
  split
  · exact ⟨name, rfl⟩
  · exact ⟨name, rfl⟩
  · exact ⟨_, rfl⟩

theorem grammar_printable : Grammar (Everywhere Printable) where
  any each := by
    obtain ⟨texts, items⟩ := exists_printItems 1 each
    exact everywhere_any.mpr ⟨⟨_, (Writes.any items).printed⟩, each⟩
  all each := by
    obtain ⟨texts, items⟩ := exists_printItems 2 each
    exact everywhere_all.mpr ⟨⟨_, (Writes.all items).printed⟩, each⟩
  not inner := by
    obtain ⟨text, printed⟩ := inner.here
    exact everywhere_not.mpr ⟨⟨_, (Writes.not printed).printed⟩, inner⟩
  compare {comparator _ _} _ left right := by
    obtain ⟨start, first⟩ := left.here
    obtain ⟨finish, second⟩ := right.here
    exact everywhere_condition.mpr
      ⟨⟨_, (Writes.compare comparator first second).printed⟩, left, right⟩
  member left right := everywhere_condition.mpr ⟨printable_member left right, left, right⟩
  null {negated _} left := by
    obtain ⟨text, printed⟩ := left.here
    exact everywhere_condition.mpr ⟨⟨_, (Writes.null negated printed).printed⟩, left,
      List.forall_mem_singleton.mpr ⟨_, rfl⟩⟩
  choice subject branches otherwise := by
    obtain ⟨_, first⟩ := exists_printOption "" subject
    obtain ⟨_, second⟩ := exists_printBranches branches
    obtain ⟨_, third⟩ := exists_printOption "ELSE " otherwise
    exact everywhere_choice.mpr
      ⟨⟨_, (Writes.choice first second third).printed⟩, subject, branches, otherwise⟩
  existence := List.forall_mem_singleton.mpr ⟨_, rfl⟩
  subquery := List.forall_mem_singleton.mpr ⟨_, rfl⟩
  call each := everywhere_call.mpr ⟨printable_call _ each, each⟩
  column := List.forall_mem_singleton.mpr (printable_column _ _)
  setting := List.forall_mem_singleton.mpr ⟨_, rfl⟩
  literal _ := List.forall_mem_singleton.mpr ⟨_, rfl⟩
  array each := by
    obtain ⟨texts, items⟩ := exists_printItems 0 each
    exact everywhere_array.mpr ⟨⟨_, (Writes.array items).printed⟩, each⟩

/-! ## Providers that are looked up -/

/-- The provider that a node may have to look up. -/
def lookup? : Expr → Option String
  | .call name [] => some name
  | .setting key => some key
  | .column name none => some name
  | _ => none

end Expr

namespace Scope

/-- The fields of the principal that are the key of a related entity that has none. -/
inductive Keyless (scope : Scope) : List String → Prop where
  | related {principal target : Entity} {field stem : String} {relation : Relation}
      (known : scope.principal = some principal) (key : beforeId? field = some stem)
      (absent : principal.hasScalar field = false)
      (other : stem ≠ Text.lower principal.name ∧ stem ≠ withoutPlural (Text.lower principal.name))
      (relates : principal.relation? stem = some relation)
      (leads : scope.graph.target? relation = some target) (unkeyed : target.primaryKey = []) :
      Keyless scope [field]

variable {scope : Scope} {parts : List String} {error : CompileError}

theorem refine_eq_error (failed : scope.refine parts = .error error) :
    error = .emptyPath ∧ scope.Keyless parts := by
  unfold Scope.refine at failed
  split at failed
  · rename_i principal field known
    unfold refineKey at failed
    split at failed
    · cases failed
    · rename_i stem key
      dsimp only at failed
      split at failed
      · cases failed
      · rename_i absent
        split at failed
        · cases failed
        · rename_i other
          split at failed
          · cases failed
          · rename_i relation relates
            split at failed
            · cases failed
            · rename_i target leads
              split at failed
              · rename_i unkeyed
                cases failed
                simp only [Bool.or_eq_true, beq_iff_eq, not_or] at other
                exact ⟨rfl, .related known key (Bool.not_eq_true _ ▸ absent) other relates leads
                  unkeyed⟩
              · cases failed
  · cases failed

theorem Keyless.refine (keyless : scope.Keyless parts) :
    scope.refine parts = .error .emptyPath := by
  cases keyless with
  | related known key absent other relates leads unkeyed =>
      simp [Scope.refine, refineKey, known, key, absent, other, relates, leads, unkeyed]

/-- The errors of looking up a provider. -/
inductive ProviderFault (scope : Scope) (name : String) : CompileError → Prop where
  | unresolvable : scope.mapping.Unresolvable name →
      ProviderFault scope name (.provider (.emptySegment [""]))
  | keyless {path : ActorPath} : (scope.mapping.resolve name).result = .ok path →
      scope.Keyless path.parts → ProviderFault scope name .emptyPath

theorem result_resolve (name : String) :
    (scope.resolve name).result = (scope.mapping.resolve name).result.mapError .provider :=
  rfl

theorem resolve_eq_error {name : String} (failed : (scope.resolve name).result = .error error) :
    scope.ProviderFault name error := by
  rw [result_resolve] at failed
  cases resolved : (scope.mapping.resolve name).result with
  | ok path =>
      rw [resolved] at failed
      cases failed
  | error fault =>
      obtain ⟨unresolvable, rfl⟩ := ProviderMap.resolve_eq_error_iff.mp resolved
      rw [resolved] at failed
      cases failed
      exact .unresolvable unresolvable

theorem refined_eq_error {name : String} {path : ActorPath}
    (resolved : (scope.resolve name).result = .ok path)
    (failed : scope.refine path.parts = .error error) : scope.ProviderFault name error := by
  obtain ⟨rfl, keyless⟩ := refine_eq_error failed
  rw [result_resolve, Compilation.mapError_eq_ok_iff] at resolved
  exact .keyless resolved keyless

end Scope

namespace Predicate

section Faults

variable {scope : Scope} {allowed : CompileError → Prop}

/-- Whether what a node can fail with by itself is allowed. -/
structure Allows (scope : Scope) (allowed : CompileError → Prop) (node : Expr) : Prop where
  schema : ∀ error, allowed (.schema error)
  printable : node.Printable
  lookup : ∀ name, node.lookup? = some name → ∀ error, scope.ProviderFault name error →
    allowed error

/-! ## Parts of conditions -/

theorem failsAs_ofPrint {e : Expr} (printable : e.Printable) :
    (Compilation.ofExcept e.print).FailsAs allowed := by
  obtain ⟨text, printed⟩ := printable
  rw [printed]
  exact Traced.failsAs_pure text

theorem failsAs_standIn {e : Expr} (printable : e.Printable) (kind : String)
    (related : Option String) : (standIn scope e kind related).FailsAs allowed := by
  refine .bind ?_ fun _ => Traced.failsAs_pure _
  refine .bind (failsAs_ofPrint printable) fun _ => ?_
  exact .bind (Traced.failsAs_note _) fun _ => Traced.failsAs_pure _

theorem failsAs_refined {name : String} {path : ActorPath} {α : Type} (next : List String → α)
    (allows : ∀ error, scope.ProviderFault name error → allowed error)
    (resolved : (scope.resolve name).result = .ok path) :
    (do return next (← Traced.lift (scope.refine path.parts)) : Compilation α).FailsAs allowed := by
  intro error failed
  rcases Traced.result_bind_eq_error_iff.mp failed with failed | ⟨_, _, absurd⟩
  · exact allows error (Scope.refined_eq_error resolved failed)
  · cases absurd

theorem failsAs_actorField {name : String}
    (allows : ∀ error, scope.ProviderFault name error → allowed error) (text : String) :
    (scope.actorField name text).FailsAs allowed := by
  intro error failed
  rcases Traced.result_bind_eq_error_iff.mp failed with failed | ⟨path, resolved, failed⟩
  · exact allows error (Scope.resolve_eq_error failed)
  · have refined := failsAs_refined (fun parts => Operand.actor parts name) allows resolved
    dsimp only at failed
    split at failed
    · exact Traced.FailsAs.bind (Traced.failsAs_note _) (fun _ => refined) error failed
    · exact refined error failed

theorem failsAs_asking {name : String} {node : Expr}
    (asks : node = .call name [] ∨ node = .setting name)
    (allows : ∀ error, scope.ProviderFault name error → allowed error) (actorFirst : Bool) :
    (side? scope actorFirst node).FailsAs allowed := by
  rcases asks with rfl | rfl
  · refine .bind (failsAs_ofPrint (Expr.printable_call name (List.forall_mem_nil _))) fun text => ?_
    exact .bind (failsAs_actorField allows text) fun _ => Traced.failsAs_pure _
  · refine .bind (failsAs_ofPrint ⟨_, rfl⟩) fun text => ?_
    exact .bind (failsAs_actorField allows text) fun _ => Traced.failsAs_pure _

theorem failsAs_provider {name : String}
    (allows : ∀ error, scope.ProviderFault name error → allowed error) :
    (scope.provider? name).FailsAs allowed := by
  intro error failed
  rcases Traced.result_bind_eq_error_iff.mp failed with failed | ⟨path, resolved, failed⟩
  · exact allows error (Scope.resolve_eq_error failed)
  · split at failed
    · cases failed
    · exact failsAs_refined some allows resolved error failed

theorem failsAs_locate (actorFirst : Bool) {name : String} {qualifier : Option String}
    (allows : Allows scope allowed (.column name qualifier)) :
    (scope.locate actorFirst name qualifier).FailsAs allowed := by
  unfold Scope.locate
  cases Location.ofName scope.graph scope.entity name qualifier with
  | direct _ => exact Traced.failsAs_pure _
  | notFound _ _ =>
      cases qualifier with
      | none =>
          refine .bind (failsAs_provider (allows.lookup name rfl)) fun found => ?_
          cases found with
          | none => exact Traced.failsAs_fail (allows.schema _)
          | some path => exact Traced.failsAs_pure _
      | some _ => exact Traced.failsAs_fail (allows.schema _)
  | related _ _ _ _ | junction _ =>
      cases qualifier with
      | none =>
          cases actorFirst with
          | false => exact Traced.failsAs_pure _
          | true =>
              refine .bind (failsAs_provider (allows.lookup name rfl)) fun found => ?_
              cases found with
              | none => exact Traced.failsAs_pure _
              | some path => exact Traced.failsAs_pure _
      | some _ => exact Traced.failsAs_pure _

theorem failsAs_side (actorFirst : Bool) {e : Expr} (allows : Allows scope allowed e) :
    (side? scope actorFirst e).FailsAs allowed := by
  cases e with
  | call name arguments =>
      cases arguments with
      | nil => exact failsAs_asking (.inl rfl) (allows.lookup name rfl) actorFirst
      | cons _ _ => exact Traced.failsAs_pure _
  | setting key => exact failsAs_asking (.inr rfl) (allows.lookup key rfl) actorFirst
  | column name qualifier =>
      refine .bind (failsAs_locate _ allows) fun reference => ?_
      cases reference with
      | actor path => exact Traced.failsAs_pure _
      | field location => exact Traced.failsAs_pure _
  | any _ | all _ | not _ | condition _ _ _ | choice _ _ _ | existence _ _ | subquery _ _
  | literal _ | array _ | foreign _ => exact Traced.failsAs_pure _

/-! ## Conditions -/

theorem failsAs_joinSides {join : Side → Side → Option Predicate} {left right e : Expr}
    (leftAllows : Allows scope allowed left) (rightAllows : Allows scope allowed right)
    (printable : e.Printable) : (joinSides scope join left right e).FailsAs allowed := by
  refine .bind (failsAs_side _ leftAllows) fun leftSide => ?_
  refine .bind (failsAs_side _ rightAllows) fun rightSide => ?_
  split
  · split
    · exact Traced.failsAs_pure _
    · exact failsAs_standIn printable _ _
  · exact failsAs_standIn printable _ _

theorem failsAs_ofEqualities {left : Expr} {items : List Expr}
    (leftAllows : Allows scope allowed left) (each : ∀ item ∈ items, Allows scope allowed item) :
    (ofEqualities scope left items).FailsAs allowed := by
  induction items with
  | nil => exact Traced.failsAs_pure _
  | cons item items ih =>
      rw [List.forall_mem_cons] at each
      obtain ⟨start, first⟩ := leftAllows.printable
      obtain ⟨finish, second⟩ := each.1.printable
      have printable : (Expr.condition (.compare .eq) left item).Printable :=
        ⟨_, (Expr.Writes.compare .eq first second).printed⟩
      refine .bind (failsAs_joinSides leftAllows each.1 printable) fun _ => ?_
      exact .bind (ih each.2) fun _ => Traced.failsAs_pure _

theorem failsAs_ofCondition {operator : Operator} {left right : Expr}
    (printable : (Expr.condition operator left right).Printable)
    (leftAllows : left.Everywhere (Allows scope allowed))
    (rightAllows : right.Everywhere (Allows scope allowed)) :
    (ofCondition scope operator left right).FailsAs allowed := by
  unfold ofCondition
  split
  · exact failsAs_joinSides leftAllows.here rightAllows.here printable
  · refine .bind (failsAs_side _ leftAllows.here) fun side => ?_
    cases side with
    | some side => exact Traced.failsAs_pure _
    | none => exact failsAs_standIn printable _ _
  · split
    · exact failsAs_standIn printable _ _
    · split
      · exact failsAs_joinSides leftAllows.here rightAllows.here printable
      · have each := (Expr.everywhere_array.mp rightAllows).2
        refine .bind ?_ fun _ => Traced.failsAs_pure _
        exact failsAs_ofEqualities leftAllows.here fun item member =>
          (each item member).here
    · exact failsAs_joinSides leftAllows.here rightAllows.here printable

theorem failsAs_ofValue {e : Expr} (allows : Allows scope allowed e) :
    (ofValue scope e).FailsAs allowed := by
  refine .bind (failsAs_side _ allows) fun side => ?_
  cases side with
  | some side => exact Traced.failsAs_pure _
  | none => exact failsAs_standIn allows.printable _ _

theorem failsAs_ofLiteral (item : Literal) : (ofLiteral scope item).FailsAs allowed := by
  unfold ofLiteral
  split
  · exact Traced.failsAs_pure _
  · exact Traced.failsAs_pure _
  · exact failsAs_standIn ⟨_, rfl⟩ _ _

theorem failsAs_subject (actorFirst : Bool) {e : Expr} (allows : Allows scope allowed e) :
    (subject? scope actorFirst e).FailsAs allowed := by
  refine .bind (failsAs_side _ allows) fun side => ?_
  split
  · exact Traced.failsAs_pure _
  · exact Traced.failsAs_pure _

theorem failsAs_keys {branches : List (Expr × Expr)}
    (each : ∀ branch ∈ branches, branch.1.Everywhere (Allows scope allowed)) :
    (keys? scope branches).FailsAs allowed := by
  induction branches with
  | nil => exact Traced.failsAs_pure _
  | cons branch branches ih =>
      rw [List.forall_mem_cons] at each
      refine .bind (failsAs_subject _ each.1.here) fun key => ?_
      cases key with
      | none => exact Traced.failsAs_pure _
      | some key => exact .bind (ih each.2) fun _ => Traced.failsAs_pure _

/-! ## Expressions -/

mutual

/-- A policy fails by the schema or as one of its nodes does by itself. -/
theorem failsAs_compile (e : Expr) (allows : e.Everywhere (Allows scope allowed)) :
    (compile scope e).FailsAs allowed := by
  have printable := allows.here.printable
  cases e with
  | any es =>
      exact .bind (failsAs_compileAll es (Expr.everywhere_any.mp allows).2) fun _ =>
        Traced.failsAs_pure _
  | all es =>
      exact .bind (failsAs_compileAll es (Expr.everywhere_all.mp allows).2) fun _ =>
        Traced.failsAs_pure _
  | not e =>
      rcases compile_not scope e with ⟨kind, related, standsIn⟩ | negates
      · rw [standsIn]
        exact failsAs_standIn printable _ _
      · rw [negates]
        exact .bind (failsAs_compile e (Expr.everywhere_not.mp allows).2) fun _ =>
          Traced.failsAs_pure _
  | condition operator left right =>
      obtain ⟨_, leftAllows, rightAllows⟩ := Expr.everywhere_condition.mp allows
      exact .bind (failsAs_ofCondition printable leftAllows rightAllows) fun _ =>
        Traced.failsAs_pure _
  | choice subject branches otherwise =>
      obtain ⟨_, first, each, last⟩ := Expr.everywhere_choice.mp allows
      cases subject with
      | none =>
          refine .bind (failsAs_compileBranches branches each) fun _ => ?_
          exact .bind (failsAs_compileOtherwise otherwise last) fun _ => Traced.failsAs_pure _
      | some subject =>
          refine .bind (failsAs_subject _ (first subject rfl).here) fun operand => ?_
          cases operand with
          | none => exact failsAs_standIn printable _ _
          | some operand =>
              refine .bind (failsAs_keys fun b member => (each b member).1) fun keys => ?_
              cases keys with
              | none => exact failsAs_standIn printable _ _
              | some keys =>
                  refine .bind (failsAs_compileOutcomes branches each) fun _ => ?_
                  exact .bind (failsAs_compileOtherwise otherwise last) fun _ =>
                    Traced.failsAs_pure _
  | existence source body => exact failsAs_standIn printable _ _
  | subquery source body => exact failsAs_standIn printable _ _
  | call name arguments =>
      cases arguments with
      | nil => exact .bind (failsAs_ofValue allows.here) fun _ => Traced.failsAs_pure _
      | cons _ _ => exact failsAs_standIn printable _ _
  | column name qualifier =>
      exact .bind (failsAs_ofValue allows.here) fun _ => Traced.failsAs_pure _
  | setting key => exact .bind (failsAs_ofValue allows.here) fun _ => Traced.failsAs_pure _
  | literal item => exact failsAs_ofLiteral item
  | array items => exact failsAs_standIn printable _ _
  | foreign node => exact failsAs_standIn printable _ _
termination_by structural e

theorem failsAs_compileAll (es : List Expr)
    (allows : ∀ e ∈ es, e.Everywhere (Allows scope allowed)) :
    (compileAll scope es).FailsAs allowed := by
  cases es with
  | nil => exact Traced.failsAs_pure _
  | cons e es =>
      rw [List.forall_mem_cons] at allows
      refine .bind (failsAs_compile e allows.1) fun _ => ?_
      exact .bind (failsAs_compileAll es allows.2) fun _ => Traced.failsAs_pure _
termination_by structural es

theorem failsAs_compileBranches (branches : List (Expr × Expr))
    (allows : ∀ branch ∈ branches, branch.1.Everywhere (Allows scope allowed) ∧
      branch.2.Everywhere (Allows scope allowed)) :
    (compileBranches scope branches).FailsAs allowed := by
  cases branches with
  | nil => exact Traced.failsAs_pure _
  | cons branch branches =>
      obtain ⟨key, outcome⟩ := branch
      rw [List.forall_mem_cons] at allows
      refine .bind (failsAs_compile key allows.1.1) fun _ => ?_
      refine .bind (failsAs_compile outcome allows.1.2) fun _ => ?_
      exact .bind (failsAs_compileBranches branches allows.2) fun _ => Traced.failsAs_pure _
termination_by structural branches

theorem failsAs_compileOutcomes (branches : List (Expr × Expr))
    (allows : ∀ branch ∈ branches, branch.1.Everywhere (Allows scope allowed) ∧
      branch.2.Everywhere (Allows scope allowed)) :
    (compileOutcomes scope branches).FailsAs allowed := by
  cases branches with
  | nil => exact Traced.failsAs_pure _
  | cons branch branches =>
      obtain ⟨key, outcome⟩ := branch
      rw [List.forall_mem_cons] at allows
      refine .bind (failsAs_compile outcome allows.1.2) fun _ => ?_
      exact .bind (failsAs_compileOutcomes branches allows.2) fun _ => Traced.failsAs_pure _
termination_by structural branches

theorem failsAs_compileOtherwise (otherwise : Option Expr)
    (allows : ∀ e ∈ otherwise, e.Everywhere (Allows scope allowed)) :
    (compileOtherwise scope otherwise).FailsAs allowed := by
  cases otherwise with
  | none => exact Traced.failsAs_pure _
  | some e => exact failsAs_compile e (allows e rfl)
termination_by structural otherwise

end

end Faults

/-! ## Providers in conditions -/

section Lookups

variable {scope : Scope} {name : String} {error : CompileError}

theorem result_actorField (fault : scope.ProviderFault name error) (text : String) :
    (scope.actorField name text).result = .error error := by
  rw [Scope.actorField, Traced.result_bind, Scope.result_resolve]
  cases fault with
  | unresolvable unresolvable =>
      rw [ProviderMap.result_resolve_of_unresolvable unresolvable]
      rfl
  | keyless resolved keyless =>
      rw [resolved]
      change Traced.result (ite _ _ _) = _
      rw [keyless.refine]
      split
      · rfl
      · rfl

theorem result_side {node : Expr} (asks : node = .call name [] ∨ node = .setting name)
    (fault : scope.ProviderFault name error) (actorFirst : Bool) :
    (side? scope actorFirst node).result = .error error := by
  rcases asks with rfl | rfl
  · obtain ⟨text, printed⟩ := Expr.printable_call name (List.forall_mem_nil _)
    refine Traced.result_bind_eq_error_iff.mpr (.inr ⟨text, ?_, ?_⟩)
    · rw [printed]
      rfl
    · exact Traced.result_bind_eq_error_iff.mpr (.inl (result_actorField fault text))
  · refine Traced.result_bind_eq_error_iff.mpr (.inr ⟨_, rfl, ?_⟩)
    exact Traced.result_bind_eq_error_iff.mpr (.inl (result_actorField fault _))

theorem compile_asking {node : Expr} (asks : node = .call name [] ∨ node = .setting name) :
    compile scope node = do return markRole (← ofValue scope node) := by
  rcases asks with rfl | rfl
  · rfl
  · rfl

/-- A provider that stands for itself fails by its faults and by nothing else. -/
theorem compile_asking_eq_error_iff {node : Expr}
    (asks : node = .call name [] ∨ node = .setting name) :
    (compile scope node).result = .error error ↔ scope.ProviderFault name error := by
  rw [compile_asking asks]
  constructor
  · intro failed
    have printable : node.Printable := by
      rcases asks with rfl | rfl
      · exact Expr.printable_call name (List.forall_mem_nil _)
      · exact ⟨_, rfl⟩
    refine Traced.FailsAs.bind ?_ (fun _ => Traced.failsAs_pure _) error failed
    refine .bind (failsAs_asking asks (fun _ => id) Bool.false) fun side => ?_
    cases side with
    | some side => exact Traced.failsAs_pure _
    | none => exact failsAs_standIn printable _ _
  · intro fault
    refine Traced.result_bind_eq_error_iff.mpr (.inl ?_)
    exact Traced.result_bind_eq_error_iff.mpr (.inl (result_side asks fault Bool.false))

theorem compile_asking_left {node : Expr} (asks : node = .call name [] ∨ node = .setting name)
    (fault : scope.ProviderFault name error) (comparator : Comparator) (other : Expr) :
    (compile scope (.condition (.compare comparator) node other)).result = .error error := by
  refine Traced.result_bind_eq_error_iff.mpr (.inl ?_)
  exact Traced.result_bind_eq_error_iff.mpr (.inl (result_side asks fault Bool.false))

theorem compile_asking_right {node other : Expr}
    (asks : node = .call name [] ∨ node = .setting name)
    (fault : scope.ProviderFault name error) (comparator : Comparator)
    (ends : (side? scope Bool.false other).Ends) :
    (compile scope (.condition (.compare comparator) other node)).result = .error error := by
  obtain ⟨side, first⟩ := ends
  refine Traced.result_bind_eq_error_iff.mpr (.inl ?_)
  refine Traced.result_bind_eq_error_iff.mpr (.inr ⟨side, first, ?_⟩)
  exact Traced.result_bind_eq_error_iff.mpr (.inl (result_side asks fault Bool.false))

end Lookups

end Predicate

/-! ## Policies -/

/-- The errors of a policy: those of the schema, and those of the providers it names. -/
inductive Scope.PolicyFault (scope : Scope) (e : Expr) : CompileError → Prop where
  | schema (error : SchemaError) : PolicyFault scope e (.schema error)
  | provider {node : Expr} {name : String} {error : CompileError} : node ∈ e.walk →
      node.lookup? = some name → scope.ProviderFault name error → PolicyFault scope e error

namespace Predicate

theorem policyFault_of_compile {scope : Scope} {text entity : String} {e : Expr}
    {error : CompileError} (parsed : Expr.parse text entity = .ok e)
    (failed : (compile scope e).result = .error error) : scope.PolicyFault e error := by
  have printable := Expr.grammar_printable.ofParse parsed
  refine failsAs_compile e ?_ error failed
  intro node member
  exact ⟨.schema, printable node member, fun name named error fault => .provider member named fault⟩

end Predicate

open Predicate (compile side?) in
/-- A provider has a field, with at least one segment and no empty one, unless no table knows its
name and the name is empty or ends in a dot. A parsed policy fails by the schema or at a provider
that it names: one without a field, or one whose field is the key of an entity that has none. Such a
provider fails where it stands for itself, and on either side of a comparison. -/
theorem compile_fails_at_providers {text entity : String} {e : Expr}
    (parsed : Expr.parse text entity = .ok e) (scope : Scope) :
    (∀ name, (∃ path, (scope.mapping.resolve name).result = .ok path ∧ path.parts ≠ [] ∧
        "" ∉ path.parts) ↔ ¬ scope.mapping.Unresolvable name) ∧
    (∀ error, (compile scope e).result = .error error → scope.PolicyFault e error) ∧
    ∀ name node, (node = .call name [] ∨ node = .setting name) → ∀ error,
      ((compile scope node).result = .error error ↔ scope.ProviderFault name error) ∧
      (scope.ProviderFault name error → ∀ comparator other,
        (compile scope (.condition (.compare comparator) node other)).result = .error error ∧
        ((side? scope Bool.false other).Ends →
          (compile scope (.condition (.compare comparator) other node)).result =
            .error error)) := by
  refine ⟨?_, ?_, ?_⟩
  · intro name
    constructor
    · intro ⟨path, resolved, _⟩ unresolvable
      rw [ProviderMap.result_resolve_of_unresolvable unresolvable] at resolved
      cases resolved
    · intro resolvable
      obtain ⟨path, resolved⟩ := ProviderMap.exists_resolve resolvable
      exact ⟨path, resolved, path.filled⟩
  · intro error failed
    exact Predicate.policyFault_of_compile parsed failed
  · intro name node asks error
    refine ⟨Predicate.compile_asking_eq_error_iff asks, ?_⟩
    intro fault comparator other
    exact ⟨Predicate.compile_asking_left asks fault comparator other,
      Predicate.compile_asking_right asks fault comparator⟩

/-! ## A setting without a name -/

/-- A comparison with a session setting of an empty name in a schema. -/
def Expr.ofNamelessSetting : Expr :=
  .condition (.compare .eq) (.column "status" none) (.setting "app.")

theorem compile_fails_at_providers_ofNamelessSetting :
    Expr.parse "status = current_setting('app.')" "Post" = .ok .ofNamelessSetting ∧
    Scope.blog.mapping.Unresolvable "app." ∧
    (Predicate.compile .blog .ofNamelessSetting).result =
      .error (.provider (.emptySegment [""])) ∧
    Scope.blog.PolicyFault .ofNamelessSetting (.provider (.emptySegment [""])) := by
  have parsed : Expr.parse "status = current_setting('app.')" "Post" = .ok .ofNamelessSetting := by
    with_unfolding_all rfl
  have unresolvable : Scope.blog.mapping.Unresolvable "app." := by decide +kernel
  obtain ⟨_, faults, lookups⟩ := compile_fails_at_providers parsed Scope.blog
  have fails := ((lookups "app." (.setting "app.") (.inr rfl) _).2 (.unresolvable unresolvable) .eq
    (.column "status" none)).2 ⟨_, by with_unfolding_all rfl⟩
  exact ⟨parsed, unresolvable, fails, faults _ fails⟩

/-- The empty name has no field, and neither has the setting. -/
theorem nameless_setting_unresolved :
    (ProviderMap.resolve .standard "").result = .error (.emptySegment [""]) ∧
    Expr.parse "status = current_setting('app.')" "Post" = .ok .ofNamelessSetting ∧
    (Predicate.compile .blog .ofNamelessSetting).result =
      .error (.provider (.emptySegment [""])) := by
  refine ⟨?_, ?_, ?_⟩
  · exact ProviderMap.result_resolve_of_unresolvable (by decide +kernel)
  · with_unfolding_all rfl
  · with_unfolding_all rfl

end RowGuard
