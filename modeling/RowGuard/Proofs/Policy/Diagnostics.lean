import Mathlib.Data.List.Nodup
import RowGuard.Proofs.Agreement
import RowGuard.Proofs.Policy.Build

/-! The findings of a policy. Both of its forms come from one compilation, and
the row filter reports what the predicate reports before anything of its own.
So the findings of a build are those of the row filters, in their order and each
of them once, under the names of the policies. -/

set_option autoImplicit false

namespace RowGuard

/-! ## Repetitions -/

namespace Diagnostic

variable {first later : List Diagnostic}

theorem dedupe_concat (ds : List Diagnostic) (d : Diagnostic) :
    dedupe (ds ++ [d]) = if d ∈ ds then dedupe ds else dedupe ds ++ [d] := by
  rw [dedupe, List.eraseDups_append]
  split
  · next seen => simp [List.removeAll, seen, dedupe]
  · next fresh => simp [List.removeAll, fresh, dedupe, List.eraseDups_cons]

theorem nodup_dedupe (ds : List Diagnostic) : (dedupe ds).Nodup := by
  induction ds using List.reverseRecOn with
  | nil => exact List.nodup_nil
  | append_singleton ds d ih =>
      rw [dedupe_concat]
      split
      · exact ih
      · next fresh =>
          refine ih.append (List.nodup_singleton d) (List.disjoint_singleton.mpr fun member => ?_)
          exact fresh (List.mem_eraseDups.mp member)

theorem dedupe_of_nodup {ds : List Diagnostic} (unique : ds.Nodup) : dedupe ds = ds := by
  induction ds using List.reverseRecOn with
  | nil => rfl
  | append_singleton ds d ih =>
      obtain ⟨before, _, apart⟩ := List.nodup_append'.mp unique
      rw [dedupe_concat, if_neg (List.disjoint_singleton.mp apart), ih before]

theorem dedupe_append_of_prefix (unique : later.Nodup) (starts : first <+: later) :
    dedupe (first ++ later) = later := by
  obtain ⟨rest, rfl⟩ := starts
  obtain ⟨before, after, apart⟩ := List.nodup_append'.mp unique
  have seen : first.removeAll first = [] := by simp [List.removeAll]
  have fresh : rest.removeAll first = rest := by
    refine List.filter_eq_self.mpr fun d member => ?_
    simpa using fun among => apart among member
  have split : (first ++ rest).removeAll first = first.removeAll first ++ rest.removeAll first :=
    List.filter_append _ _
  rw [dedupe, List.eraseDups_append, split, seen, fresh]
  exact congrArg₂ (· ++ ·) (dedupe_of_nodup before) (dedupe_of_nodup after)

end Diagnostic

namespace Compilation

variable {before after : List Event}

theorem nodup_diagnostics (events : List Event) : (diagnostics events).Nodup :=
  Diagnostic.nodup_dedupe _

theorem diagnostics_prefix (before after : List Event) :
    diagnostics before <+: diagnostics (before ++ after) := by
  rw [diagnostics, diagnostics, Diagnostic.dedupe, Diagnostic.dedupe, List.filterMap_append,
    List.eraseDups_append]
  exact List.prefix_append _ _

end Compilation

/-! ## Events of lowering -/

namespace RowFilter

open Compilation (Event)
open Traced (Each)

variable {scope : Scope}

theorem notes_noteSplit (p : Predicate) (message : String) :
    (noteSplit scope p message).Notes (scope.Issues True) :=
  .bind (Traced.notes_lift _) fun _ => Traced.notes_note ⟨rfl, rfl, rfl⟩

theorem notes_splitAny (p : Predicate) (parts : List RowFilter) :
    (splitAny scope p parts).Notes (scope.Issues True) := by
  unfold splitAny
  split
  · exact Traced.notes_pure _
  · exact Traced.notes_pure _
  · exact .bind (notes_noteSplit _ _) fun _ => Traced.notes_pure _

theorem notes_splitAll (top : Bool) (parts : List RowFilter) :
    (splitAll scope top parts).Notes (scope.Issues True) := by
  unfold splitAll
  split
  · exact Traced.notes_pure _
  · exact Traced.notes_pure _
  · split
    · refine .bind ?_ fun _ => .bind (notes_noteSplit _ _) fun _ => Traced.notes_pure _
      exact List.forall_mem_map.mpr fun _ _ => trivial
    · exact .bind (notes_noteSplit _ _) fun _ => Traced.notes_pure _

theorem Chain.forall_issues {last chained : RowFilter} {branches : List (Predicate × Predicate)}
    {events : List Event}
    (chain : Chain (fun _ _ part => ∀ event ∈ part, scope.Issues True event) last branches chained
      events) : ∀ event ∈ events, scope.Issues True event := by
  induction chain with
  | nil => simp
  | cons _ outcome ih => exact List.forall_mem_append.mpr ⟨ih, outcome⟩

theorem Arms.forall_issues {excluded arms others : List RowFilter}
    {branches : List (Predicate × Predicate)} {events : List Event}
    (run : Arms (fun _ _ part => ∀ event ∈ part, scope.Issues True event) excluded branches arms
      others events) : ∀ event ∈ events, scope.Issues True event := by
  induction run with
  | nil => simp
  | cons key outcome left _ ih =>
      simp only [List.forall_mem_append]
      exact ⟨key, outcome, (notes_unmatched _ _).of_eq left, ih⟩

theorem invariant_issues (scope : Scope) :
    Invariant scope fun _ _ _ events => ∀ event ∈ events, scope.Issues True event where
  role _ := by simp
  constant _ _ _ := by simp
  all _ each split := List.forall_mem_append.mpr
    ⟨each.forall_event fun _ _ _ => id, (notes_splitAll _ _).of_eq split⟩
  any _ each split := List.forall_mem_append.mpr
    ⟨each.forall_event fun _ _ _ => id, (notes_splitAny _ _).of_eq split⟩
  not _ run := run
  marked _ run := run
  unresolved := by simp
  compare _ lowered :=
    (notes_fieldTest (scope.allows_issues True) (fieldTest_ofCompare _ _)).of_eq lowered
  member _ lowered :=
    (notes_fieldTest (scope.allows_issues True) (fieldTest_ofMember _ _ _ _)).of_eq lowered
  isNull _ lowered :=
    (notes_fieldTest (scope.allows_issues True) (fieldTest_ofNull _ _ _)).of_eq lowered
  anyRelated run := run
  chain _ _ _ last chain noted := by
    have split := (notes_noteSplit _ _).of_eq noted
    exact List.forall_mem_append.mpr
      ⟨last, List.forall_mem_append.mpr ⟨chain.forall_issues, split⟩⟩
  arms _ _ _ run last := List.forall_mem_append.mpr ⟨run.forall_issues, last⟩

end RowFilter

/-! ## Both forms -/

section Forms

variable {scope : Scope} {e : Expr} {check : RecordCheck} {access : RowAccess}

/-- Both forms come from one compilation, and lowering goes on from what it leaves. -/
theorem Scope.events_of_forms (checked : (scope.recordCheck e).result = .ok check)
    (built : (scope.rowAccess e).result = .ok access) :
    ∃ before after, check.diagnostics = Compilation.diagnostics before ∧
      access.diagnostics = Compilation.diagnostics (before ++ after) ∧
      ∀ event ∈ before ++ after, scope.Issues True event := by
  obtain ⟨p, f, before, after, compiled, lowered, rfl⟩ := rowAccess_eq_ok built
  cases checked.symm.trans (result_recordCheck compiled)
  refine ⟨before, after, rfl, rfl, List.forall_mem_append.mpr ⟨?_, ?_⟩⟩
  · intro event member
    have issued := (Predicate.invariant_allowed (scope.allows_issues False)).ofCompile e compiled
      event member
    cases event with
    | finding _ | guess _ => exact issued
    | roleCheck _ => exact issued.elim
  · exact (RowFilter.invariant_issues scope).ofLower true p lowered

/-- What the findings of the two forms have to do with each other, and with the scope. -/
structure Scope.LinedUp (scope : Scope) (check : RecordCheck) (access : RowAccess) : Prop where
  once : check.diagnostics.Nodup ∧ access.diagnostics.Nodup
  starts : check.diagnostics <+: access.diagnostics
  own : ∀ d ∈ access.diagnostics,
    d.entity = scope.entity.name ∧ d.operation = scope.operation ∧ d.policy = none

theorem Scope.linedUp_of_forms (checked : (scope.recordCheck e).result = .ok check)
    (built : (scope.rowAccess e).result = .ok access) : scope.LinedUp check access := by
  obtain ⟨before, after, checks, rows, issued⟩ := events_of_forms checked built
  refine ⟨⟨?_, ?_⟩, ?_, ?_⟩
  · rw [checks]
    exact Compilation.nodup_diagnostics before
  · rw [rows]
    exact Compilation.nodup_diagnostics (before ++ after)
  · rw [checks, rows]
    exact Compilation.diagnostics_prefix before after
  · intro d member
    rw [rows] at member
    exact issued _ (Compilation.mem_diagnostics_iff.mp member)

/-- A finding under the names of the policies that it is about. -/
def Diagnostic.under (names : String) (d : Diagnostic) : Diagnostic :=
  { d with policy := some names }

namespace Scope.LinedUp

theorem joined (lined : scope.LinedUp check access) (names : String) :
    Build.joinedDiagnostics names check access = access.diagnostics.map (Diagnostic.under names) :=
  congrArg (List.map (Diagnostic.under names))
    (Diagnostic.dedupe_append_of_prefix lined.once.2 lined.starts)

theorem nodup_under (lined : scope.LinedUp check access) (names : String) :
    (access.diagnostics.map (Diagnostic.under names)).Nodup := by
  refine List.Nodup.map_on (fun d member other among same => ?_) lined.once.2
  have unnamed := (lined.own d member).2.2.trans (lined.own other among).2.2.symm
  cases d
  cases other
  cases unnamed
  simpa [Diagnostic.under] using same

end Scope.LinedUp

end Forms

/-! ## Builds -/

theorem Build.Makes.enforces {registry : Registry} {mapping : ProviderMap} {graph : Graph}
    {config : Config} {task : String × Operation} {policy : Enforcement}
    (made : Makes registry mapping graph config task policy) :
    (∃ name operation, policy = .denied name operation) ∨
      ∃ scope sources, Scope.make mapping graph policy.entity policy.operation config = .ok scope ∧
        Enforces scope sources policy.expression policy := by
  cases settles_of_compileOne made with
  | denied _ _ => exact .inl ⟨_, _, rfl⟩
  | compiled _ _ _ making enforces named operated =>
      rw [← named, ← operated] at making
      rw [← enforces.expression] at enforces
      exact .inr ⟨_, _, making, enforces⟩

/-- Wherever an expression compiles to both forms, neither repeats a finding, and those of the
predicate come first among those of the row filter, which are about the operation on the entity and
name no policy. What a build stores for an operation is a denial without findings, or the forms of
one expression together with the findings of the row filter, in their order, under the names of the
policies. -/
theorem diagnostics_line_up :
    (∀ (scope : Scope) (e : Expr) (check : RecordCheck) (access : RowAccess),
      (scope.recordCheck e).result = .ok check → (scope.rowAccess e).result = .ok access →
        scope.LinedUp check access) ∧
      ∀ (registry : Registry) (mapping : ProviderMap) (graph : Graph) (config : Config)
        (rules : Ruleset), (Build.run registry mapping graph config).result = .ok rules →
        ∀ policy ∈ rules.compiled,
          (∃ name operation, policy = .denied name operation) ∨
            ∃ scope,
              Scope.make mapping graph policy.entity policy.operation config = .ok scope ∧
              (scope.recordCheck policy.expression).result = .ok policy.predicate ∧
              (scope.rowAccess policy.expression).result = .ok policy.filter ∧
              policy.diagnostics = policy.filter.diagnostics.map
                (Diagnostic.under (Text.joinWith ", " policy.policies)) ∧
              policy.diagnostics.Nodup := by
  refine ⟨fun _ _ _ _ => Scope.linedUp_of_forms, ?_⟩
  intro registry mapping graph config rules built policy member
  obtain ⟨task, _, made⟩ := Build.exists_task built member
  obtain denied | ⟨scope, sources, making, enforces⟩ := made.enforces
  · exact .inl denied
  · have lined := Scope.linedUp_of_forms enforces.check enforces.access
    have stored : policy.diagnostics = policy.filter.diagnostics.map
        (Diagnostic.under (Text.joinWith ", " policy.policies)) := by
      rw [enforces.diagnostics, lined.joined, Build.joinedNames, enforces.policies]
    refine .inr ⟨scope, making, enforces.check, enforces.access, stored, ?_⟩
    rw [stored]
    exact lined.nodup_under _

/-- Admins see the open posts, where the test for open ones has no meaning of its own. -/
def Policy.adminsSeeOpen : Policy :=
  { name := "admins_see_open", entity := "Post", command := .select,
    condition := some "current_role() = 'admin' AND lower(status) = 'open'" }

def Registry.openForAdmins : Registry :=
  ⟨⟨[("Post", [.adminsSeeOpen])]⟩⟩

/-- The predicate reports the test; the row filter reports it too, and that the role was taken
out. -/
theorem diagnostics_line_up_openForAdmins :
    ∃ rules, (Build.run .openForAdmins Scope.blog.mapping .blog {}).result = .ok rules ∧
      ∃ policy ∈ rules.compiled, policy.denyByDefault = false ∧
        policy.predicate.diagnostics.map (·.category) = [.unresolvedConstruct] ∧
        policy.filter.diagnostics.map (·.category) = [.unresolvedConstruct, .roleSplit] ∧
        policy.diagnostics =
          policy.filter.diagnostics.map (Diagnostic.under "admins_see_open") ∧
        ∃ scope, Scope.make Scope.blog.mapping .blog "Post" .select {} = .ok scope ∧
          scope.LinedUp policy.predicate policy.filter := by
  have entities : Registry.openForAdmins.entities = ["Post"] :=
    List.mergeSort_of_pairwise (by decide +kernel)
  obtain ⟨rules, built, tested⟩ := Traced.exists_ok_of_any
    (Build.run .openForAdmins Scope.blog.mapping .blog {})
    (fun rules => rules.compiled.any fun policy =>
      policy.entity = "Post" ∧ policy.operation = .select ∧ policy.denyByDefault = false ∧
        policy.policies = ["admins_see_open"] ∧
        policy.predicate.diagnostics.map (·.category) = [.unresolvedConstruct] ∧
        policy.filter.diagnostics.map (·.category) = [.unresolvedConstruct, .roleSplit]) (by
      rw [Build.run, Build.tasks, entities]
      decide +kernel)
  obtain ⟨policy, member, tested⟩ := List.any_eq_true.mp tested
  obtain ⟨entity, operation, enforced, names, checks, rows⟩ := of_decide_eq_true tested
  refine ⟨rules, built, policy, member, enforced, checks, rows, ?_⟩
  obtain ⟨forms, stored⟩ := diagnostics_line_up
  obtain ⟨_, _, rfl⟩ | ⟨scope, making, checked, lowered, found, _⟩ :=
    stored _ _ _ _ rules built policy member
  · cases enforced
  · rw [names] at found
    rw [entity, operation] at making
    exact ⟨found, scope, making, forms scope _ _ _ checked lowered⟩

end RowGuard
